import ColumnSelection.Proofs.Pruning
import ColumnSelection.Proofs.TreeLookup
import ColumnSelection.Selection.Resolve
import Mathlib.Data.List.Nodup

/-!
# References to columns by their paths

The path of a column of a tree leads to that column. In a pruning of the tree it leads to what is
left of the column, or to nothing; it never passes through a leaf, so under a policy that skips
unresolved references it resolves in every pruning.
-/
namespace ColumnSelection

open Column

namespace Tree

theorem lookup_append {cs : List Column} {names more : List String} (hnames : names ≠ [])
    (hmore : more ≠ []) :
    lookup cs (names ++ more) = (lookup cs names).bind fun c => lookup c.children more := by
  induction names generalizing cs with
  | nil => exact absurd rfl hnames
  | cons n rest ih =>
    rw [List.cons_append, lookup_cons (List.append_ne_nil_of_right_ne_nil _ hmore)]
    rcases eq_or_ne rest [] with rfl | hrest
    · rw [lookup_singleton, List.nil_append]
    · rw [lookup_cons hrest, Option.bind_assoc]
      exact congrArg _ (funext fun c => ih hrest)

theorem children_ne_nil_of_lookup {c d : Column} {names : List String}
    (h : lookup c.children names = some d) : c.children ≠ [] := by
  intro hnil
  rw [hnil] at h
  cases names with
  | nil => simp at h
  | cons n rest =>
    rcases eq_or_ne rest [] with rfl | hrest
    · simp [lookup_singleton] at h
    · simp [lookup_cons hrest] at h

theorem isGroup_of_lookup {c d : Column} {names : List String}
    (h : lookup c.children names = some d) : c.isGroup = true := by
  cases c with
  | group l cs => rfl
  | value l t => exact absurd rfl (children_ne_nil_of_lookup h)
  | frame l s => exact absurd rfl (children_ne_nil_of_lookup h)

/-- A held column is found by its path. -/
theorem WellFormed.find?_of_mem_preorder {t : Tree} (h : t.WellFormed) {c : Column} {p : Path}
    (hc : t.find? p = some c) : ∀ d ∈ c.preorder, t.find? d.path = some d := by
  intro d hd
  obtain ⟨more, hmore⟩ := exists_lookup_of_mem_preorder h.distinct hc d hd
  rw [find?, (path_of_lookup h.placed hmore).1]
  exact hmore

theorem WellFormed.find?_of_mem_depthFirst {t : Tree} (h : t.WellFormed) {c : Column}
    (hc : c ∈ t.depthFirst) : t.find? c.path = some c := by
  obtain ⟨b, hb, hc⟩ := mem_preorderAll.mp hc
  exact h.find?_of_mem_preorder (h.find?_of_mem_columns hb) c hc

theorem WellFormed.isSome_find?_of_mem {t : Tree} (h : t.WellFormed) {p : Path}
    (hp : p ∈ t.depthFirst.map path) : (t.find? p).isSome := by
  obtain ⟨c, hc, rfl⟩ := List.mem_map.mp hp
  rw [h.find?_of_mem_depthFirst hc]
  rfl

theorem WellFormed.mem_depthFirst_of_find? {t : Tree} (h : t.WellFormed) {c : Column} {p : Path}
    (hc : t.find? p = some c) : c ∈ t.depthFirst :=
  (path_of_lookup h.placed hc).2.2

/-- What stands at or below the path of a column of a tree is held by that column. -/
theorem WellFormed.mem_preorder_of_startsWith {t : Tree} (h : t.WellFormed) {c d : Column}
    (hc : c ∈ t.depthFirst) (hd : d ∈ t.depthFirst)
    (hstart : d.path.startsWith c.path = true) : d ∈ c.preorder := by
  have hfindc := h.find?_of_mem_depthFirst hc
  have hfindd := h.find?_of_mem_depthFirst hd
  obtain ⟨⟨names⟩, hpath⟩ := (Path.startsWith_iff _ _).mp hstart
  rw [hpath] at hfindd
  rcases eq_or_ne names [] with rfl | hne
  · have hsame : c.path ++ ⟨[]⟩ = c.path := Path.ext (List.append_nil _)
    rw [hsame, hfindc] at hfindd
    cases hfindd
    exact c.self_mem_preorder
  · -- What is left of the path leads from the upper column down to the lower one.
    have hroot : c.path.segments ≠ [] := by
      intro hnil
      rw [find?, hnil, lookup_nil] at hfindc
      cases hfindc
    rw [find?, Path.segments_append, lookup_append hroot hne, ← find?, hfindc,
      Option.bind_some] at hfindd
    exact mem_preorder_iff.mpr (.inr (mem_preorderAll_of_lookup hfindd))

theorem find?_name_prune {ds cs : List Column} (h : PrunesAll ds cs) (hcs : (cs.map name).Nodup)
    {n : String} {d : Column} (hd : ds.find? (·.name == n) = some d) :
    ∃ c, cs.find? (·.name == n) = some c ∧ d.Prunes c := by
  obtain ⟨c, hc, hdc⟩ := h.mem (List.mem_of_find?_eq_some hd)
  have hn : c.name = n := by
    rw [← hdc.name_eq]
    simpa using List.find?_some hd
  exact ⟨c, hn ▸ find?_name_of_mem hcs hc, hdc⟩

/-- What is found in a pruning is a pruning of what is found in the whole. -/
theorem lookup_prune {ds cs : List Column} (h : PrunesAll ds cs) (hcs : SiblingsDistinct cs)
    {names : List String} {d : Column} (hd : lookup ds names = some d) :
    ∃ c, lookup cs names = some c ∧ d.Prunes c := by
  induction names generalizing ds cs with
  | nil => simp at hd
  | cons n rest ih =>
    obtain ⟨hnames, hbelow⟩ := siblingsDistinct_iff.mp hcs
    rcases eq_or_ne rest [] with rfl | hrest
    · rw [lookup_singleton] at hd ⊢
      exact find?_name_prune h hnames hd
    · rw [lookup_cons hrest, Option.bind_eq_some_iff] at hd
      obtain ⟨b, hb, hd⟩ := hd
      obtain ⟨a, ha, hba⟩ := find?_name_prune h hnames hb
      rw [lookup_cons hrest, ha]
      exact ih hba.children (hbelow a (List.mem_of_find?_eq_some ha)).children hd

end Tree

namespace Scope

theorem unresolved_of_skip {s : Scope} (hs : s.settings.unresolved = .skip) (name : String)
    (place : Path) : (s.unresolved name place).outcome = .ok [] := by
  rw [unresolved, hs]
  rfl

/-- Names that lead somewhere in the whole lead, in a pruning of it, to what is left there. -/
theorem outcome_walk (s : Scope) (whole place : Path) {ds cs : List Column} (h : PrunesAll ds cs)
    (hcs : SiblingsDistinct cs) {n : String} {rest : List String}
    (hwhole : (Tree.lookup cs (n :: rest)).isSome)
    (hs : s.settings.unresolved = .skip ∨ (Tree.lookup ds (n :: rest)).isSome) :
    (match ds.find? fun c : Column => c.name == n with
      | some c => s.walk whole (some c) rest
      | none => s.unresolved whole.text place).outcome =
        .ok (Tree.lookup ds (n :: rest)).toList := by
  induction rest generalizing n place ds cs with
  | nil =>
    rw [Tree.lookup_singleton] at hs ⊢
    cases hd : ds.find? (·.name == n) with
    | none => exact unresolved_of_skip (hs.resolve_right (by simp [hd])) _ _
    | some d => rfl
  | cons m more ih =>
    have hne : m :: more ≠ [] := List.cons_ne_nil _ _
    rw [Tree.lookup_cons hne] at hwhole hs ⊢
    cases hd : ds.find? (·.name == n) with
    | none => exact unresolved_of_skip (hs.resolve_right (by simp [hd])) _ _
    | some d =>
      obtain ⟨hnames, hbelow⟩ := siblingsDistinct_iff.mp hcs
      obtain ⟨c, hc, hdc⟩ := Tree.find?_name_prune h hnames hd
      rw [hc, Option.bind_some] at hwhole
      obtain ⟨b, hb⟩ := Option.isSome_iff_exists.mp hwhole
      have hgroup : d.isGroup = true := hdc.isGroup_eq.trans (Tree.isGroup_of_lookup hb)
      rw [hd, Option.bind_some] at hs
      simp only [walk, hgroup, if_true]
      exact ih d.path hdc.children (hbelow c (List.mem_of_find?_eq_some hc)).children hwhole hs

end Scope

namespace Tree

variable {t whole : Tree} {settings : Settings}

theorem outcome_atPath (hwhole : whole.WellFormed) (h : PrunesAll t.columns whole.columns)
    {p : Path} (hp : (whole.find? p).isSome)
    (hs : settings.unresolved = .skip ∨ (t.find? p).isSome) :
    (Scope.atPath { tree := t, settings := settings } p).outcome = .ok (t.find? p).toList := by
  obtain ⟨names⟩ := p
  cases names with
  | nil => simp [find?] at hp
  | cons n rest =>
    exact Scope.outcome_walk { tree := t, settings := settings } _ _ h hwhole.distinct hp hs

/-- The paths in a list that lead to a column of the tree. -/
def held (t : Tree) (paths : List Path) : List Path :=
  paths.filter fun p => (t.find? p).isSome

theorem held_eq_self {paths : List Path} (h : ∀ p ∈ paths, (t.find? p).isSome) :
    t.held paths = paths :=
  List.filter_eq_self.mpr h

theorem WellFormed.map_path_found (ht : t.WellFormed) (paths : List Path) :
    (paths.flatMap fun p => (t.find? p).toList).map path = t.held paths := by
  induction paths with
  | nil => rfl
  | cons p rest ih =>
    rw [List.flatMap_cons, List.map_append, ih, held, held]
    cases hp : t.find? p with
    | none => simp [hp]
    | some c => simp [hp, (ht.path_of_find? hp).1]

/-- References by paths exclude the paths that lead to a column of the tree. -/
theorem outcome_select_allExcept (hwhole : whole.WellFormed)
    (h : PrunesAll t.columns whole.columns) (ht : t.WellFormed) {paths : List Path}
    (hpaths : ∀ p ∈ paths, (whole.find? p).isSome)
    (hs : settings.unresolved = .skip ∨ ∀ p ∈ paths, (t.find? p).isSome) :
    (t.select (.allExcept (.columns (paths.map .path))) settings).outcome =
      .ok (distinct (exceptColumns t.columns (t.held paths))) := by
  have hcollect : ((Selection.columns (paths.map .path)).resolve
      { tree := t, settings := settings }).outcome =
        .ok (paths.flatMap fun p => (t.find? p).toList) := by
    rw [Selection.resolve, Logged.collect_eq_ok]
    refine ⟨paths.map fun p => (t.find? p).toList, ?_, List.flatMap_def⟩
    rw [List.forall₂_map_left_iff, List.forall₂_map_right_iff, List.forall₂_same]
    exact fun p hp => outcome_atPath hwhole h (hpaths p hp) (hs.imp id fun hs => hs p hp)
  rw [select, Selection.allExcept, Selection.resolve, Selection.resolve, Logged.outcome_bind_eq_ok]
  refine ⟨t.columns, rfl, Logged.outcome_bind_eq_ok.mpr ⟨_, hcollect, ?_⟩⟩
  rw [ht.map_path_found]
  rfl

end Tree

theorem distinctFrom_eq_self {seen : List Path} {cs : List Column} (hcs : (cs.map path).Nodup)
    (hseen : ∀ c ∈ cs, c.path ∉ seen) : distinctFrom seen cs = cs := by
  induction cs generalizing seen with
  | nil => rfl
  | cons c rest ih =>
    rw [List.map_cons, List.nodup_cons] at hcs
    rw [List.forall_mem_cons] at hseen
    rw [distinctFrom, if_neg hseen.1, ih hcs.2]
    intro d hd
    rw [List.mem_cons, not_or]
    exact ⟨fun he => hcs.1 (he ▸ List.mem_map_of_mem hd), hseen.2 d hd⟩

/-- Siblings with distinct names have distinct paths. -/
theorem nodup_paths_of_names {parent : Path} {cs : List Column}
    (hcs : ∀ c ∈ cs, c.path = parent.child c.name) (hnames : (cs.map name).Nodup) :
    (cs.map path).Nodup := by
  have hpaths : cs.map path = (cs.map name).map parent.child := by
    rw [List.map_map]
    exact List.map_congr_left hcs
  rw [hpaths]
  exact List.Nodup.map (fun m n he => by simpa [Path.child] using he) hnames

namespace Tree.WellFormed

variable {t : Tree} (h : t.WellFormed)
include h

/-- The columns of a tree have no repeated paths. -/
theorem distinct_columns : ColumnSelection.distinct t.columns = t.columns :=
  distinctFrom_eq_self (nodup_paths_of_names (fun c hc => (h.placed c hc).1) h.names_nodup)
    (by simp)

end Tree.WellFormed

end ColumnSelection
