import ColumnSelection.Column.Tree
import ColumnSelection.Proofs.Outcome
import ColumnSelection.Proofs.Pruning

/-!
# Looking columns up in a tree

A tree is built exactly from columns with distinct sibling names. In a built tree every column has
the names on the way to it as its path, and looking that path up finds the column.
-/
namespace ColumnSelection

namespace Column

mutual

/-- Below the column, siblings in groups and in frame schemas have distinct names. -/
def NamesDistinct : Column → Prop
  | .value .. => True
  | .group _ cs => SiblingsDistinct cs
  | .frame _ s => SiblingsDistinct s
termination_by structural c => c

/-- The columns of a list have distinct names, and so have siblings at every level below them. -/
def SiblingsDistinct : List Column → Prop
  | [] => True
  | c :: rest => c.name ∉ rest.map name ∧ NamesDistinct c ∧ SiblingsDistinct rest
termination_by structural cs => cs

end

theorem siblingsDistinct_iff {cs : List Column} :
    SiblingsDistinct cs ↔ (cs.map name).Nodup ∧ ∀ c ∈ cs, c.NamesDistinct := by
  induction cs with
  | nil => simp [SiblingsDistinct]
  | cons c rest ih =>
    rw [SiblingsDistinct, ih, List.map_cons, List.nodup_cons, List.forall_mem_cons]
    tauto

@[simp] theorem namesDistinct_value (l : Label) (t : DataType) :
    (Column.value l t).NamesDistinct := trivial

@[simp] theorem namesDistinct_group (l : Label) (cs : List Column) :
    (Column.group l cs).NamesDistinct ↔ SiblingsDistinct cs := Iff.rfl

@[simp] theorem namesDistinct_frame (l : Label) (s : List Column) :
    (Column.frame l s).NamesDistinct ↔ SiblingsDistinct s := Iff.rfl

theorem NamesDistinct.children {c : Column} (h : c.NamesDistinct) :
    SiblingsDistinct c.children := by
  cases c with
  | value l t => trivial
  | frame l s => trivial
  | group l cs => exact h

theorem NamesDistinct.prune {d c : Column} (h : d.Prunes c) (hc : c.NamesDistinct) :
    d.NamesDistinct := by
  induction c using Column.induct generalizing d with
  | value l t => cases h; exact hc
  | frame l s => cases h; exact hc
  | group l cs ih =>
    cases h with
    | group l h =>
      obtain ⟨hnames, hcs⟩ := siblingsDistinct_iff.mp hc
      refine siblingsDistinct_iff.mpr ⟨(PrunesAll.names h).nodup hnames, fun d hd => ?_⟩
      obtain ⟨c, hmem, hdc⟩ := PrunesAll.mem h hd
      exact ih c hmem hdc (hcs c hmem)

theorem SiblingsDistinct.prune {ds cs : List Column} (h : PrunesAll ds cs)
    (hcs : SiblingsDistinct cs) : SiblingsDistinct ds :=
  NamesDistinct.prune (.group default h) hcs

/-- Among columns with distinct names, the search by the name of one finds it. -/
theorem find?_name_of_mem {cs : List Column} (h : (cs.map name).Nodup) {c : Column} (hc : c ∈ cs) :
    cs.find? (·.name == c.name) = some c := by
  induction cs with
  | nil => cases hc
  | cons d rest ih =>
    rw [List.map_cons, List.nodup_cons] at h
    rcases List.mem_cons.mp hc with rfl | hc
    · simp
    · have hne : d.name ≠ c.name := fun he => h.1 (he ▸ List.mem_map_of_mem hc)
      rw [List.find?_cons_of_neg (by simpa using hne)]
      exact ih h.2 hc

section rebase

variable (parent other : Path) (c : Column)

theorem label_rebase : (c.rebase parent).label = c.label.under parent := by
  cases c <;> rfl

@[simp] theorem name_rebase : (c.rebase parent).name = c.name := by
  rw [name, label_rebase]
  rfl

@[simp] theorem path_rebase : (c.rebase parent).path = parent.child c.name := by
  rw [path, label_rebase]
  rfl

theorem anchored_rebase : (c.rebase parent).Anchored := by
  induction c using Column.induct generalizing parent with
  | value l t => trivial
  | frame l s => trivial
  | group l cs ih =>
    rw [rebase, rebaseAll_eq_map, anchored_group]
    intro d hd
    obtain ⟨c, hc, rfl⟩ := List.mem_map.mp hd
    exact ⟨by simp [Label.under], ih c hc _⟩

theorem rebase_rebase : (c.rebase other).rebase parent = c.rebase parent := by
  induction c using Column.induct generalizing parent other with
  | value l t => rfl
  | frame l s => rfl
  | group l cs ih =>
    simp only [rebase, rebaseAll_eq_map, List.map_map, Label.under, Column.group.injEq, true_and]
    exact List.map_congr_left fun c hc => ih c hc _ _

end rebase

/-- A column already in its place is not moved. -/
theorem rebase_eq_self {parent : Path} {c : Column} (hpath : c.path = parent.child c.name)
    (h : c.Anchored) : c.rebase parent = c := by
  induction c using Column.induct generalizing parent with
  | value l t => rw [rebase, Label.under, ← name_value l t, ← hpath]; rfl
  | frame l s => rw [rebase, Label.under, ← name_frame l s, ← hpath]; rfl
  | group l cs ih =>
    have hl : l.under parent = l := by
      rw [Label.under, ← name_group l cs, ← hpath]
      rfl
    rw [rebase, rebaseAll_eq_map, hl, ← name_group l cs, ← hpath]
    refine congrArg _ ((List.map_congr_left fun c hc => ?_).trans (List.map_id cs))
    exact ih c hc (anchored_group.mp h c hc).1 (anchored_group.mp h c hc).2

end Column

open Column

namespace Tree

/-- The check of a list succeeds exactly when its names are new and distinct and the check of
every column of the list succeeds. -/
theorem checkSiblings_eq_ok_iff {scope : Path} {seen : List String} {cs : List Column} :
    checkSiblings scope seen cs = .ok () ↔
      (∀ c ∈ cs, c.name ∉ seen) ∧ (cs.map name).Nodup ∧ ∀ c ∈ cs, checkBelow c = .ok () := by
  induction cs generalizing seen with
  | nil => simp [checkSiblings]
  | cons c rest ih =>
    rw [checkSiblings]
    by_cases hseen : c.name ∈ seen
    · simp [hseen]
    cases hbelow : checkBelow c with
    | error e => simp [hseen, hbelow]
    | ok u =>
      have hnew : (∀ d ∈ rest, d.name ∉ c.name :: seen) ↔
          c.name ∉ rest.map name ∧ ∀ d ∈ rest, d.name ∉ seen := by
        simp only [List.mem_cons, not_or, List.mem_map, not_exists, not_and, forall_and]
      simp only [if_neg hseen, ih, hnew]
      rw [List.forall_mem_cons, List.forall_mem_cons, List.map_cons, List.nodup_cons]
      tauto

theorem checkBelow_eq_ok_iff {c : Column} : checkBelow c = .ok () ↔ c.NamesDistinct := by
  induction c using Column.induct with
  | value l t => simp [checkBelow]
  | group l cs ih =>
    rw [checkBelow, checkSiblings_eq_ok_iff, namesDistinct_group, siblingsDistinct_iff]
    simp only [List.not_mem_nil, not_false_eq_true, implies_true, true_and]
    exact and_congr_right fun _ => forall₂_congr ih
  | frame l s ih =>
    rw [checkBelow, checkSiblings_eq_ok_iff, namesDistinct_frame, siblingsDistinct_iff]
    simp only [List.not_mem_nil, not_false_eq_true, implies_true, true_and]
    exact and_congr_right fun _ => forall₂_congr ih

/-- A tree whose columns stand in their places and have distinct names at every level. -/
structure WellFormed (t : Tree) : Prop where
  placed : ∀ c ∈ t.columns, c.path = Path.root.child c.name ∧ c.Anchored
  distinct : SiblingsDistinct t.columns

/-- A tree is built exactly when the names of siblings are distinct at every level. -/
theorem build_eq_ok_iff {cs : List Column} {t : Tree} :
    build cs = .ok t ↔ t.columns = cs.map (rebase .root) ∧ SiblingsDistinct t.columns := by
  have hcheck : ∀ cs : List Column, checkSiblings .root [] cs = .ok () ↔ SiblingsDistinct cs := by
    intro cs
    rw [checkSiblings_eq_ok_iff, siblingsDistinct_iff]
    simp [checkBelow_eq_ok_iff]
  simp only [build, bind_eq_ok, hcheck]
  constructor
  · rintro ⟨-, hd, ht⟩
    cases ht
    exact ⟨rfl, hd⟩
  · rintro ⟨ht, hd⟩
    exact ⟨(), ht ▸ hd, by rw [← ht]; rfl⟩

theorem WellFormed.of_build {cs : List Column} {t : Tree} (h : build cs = .ok t) :
    t.WellFormed := by
  obtain ⟨ht, hd⟩ := build_eq_ok_iff.mp h
  refine ⟨fun c hc => ?_, hd⟩
  rw [ht] at hc
  obtain ⟨b, -, rfl⟩ := List.mem_map.mp hc
  exact ⟨by simp, anchored_rebase _ _⟩

/-- The columns of a well-formed tree make the same tree. -/
theorem WellFormed.build_columns {t : Tree} (h : t.WellFormed) : build t.columns = .ok t := by
  refine build_eq_ok_iff.mpr ⟨?_, h.distinct⟩
  refine ((List.map_congr_left fun c hc => ?_).trans (List.map_id _)).symm
  exact rebase_eq_self (h.placed c hc).1 (h.placed c hc).2

@[simp] theorem lookup_nil (cs : List Column) : lookup cs [] = none := by
  rw [lookup]

theorem lookup_singleton (cs : List Column) (n : String) :
    lookup cs [n] = cs.find? (·.name == n) := by
  rw [lookup]

theorem lookup_cons {cs : List Column} {n : String} {rest : List String} (h : rest ≠ []) :
    lookup cs (n :: rest) = (cs.find? (·.name == n)).bind fun c => lookup c.children rest := by
  cases rest with
  | nil => exact absurd rfl h
  | cons m more =>
    rw [lookup]
    · cases cs.find? (·.name == n) <;> rfl
    · exact List.cons_ne_nil _ _

/-- A column that was looked up is held by the columns searched. -/
theorem mem_preorderAll_of_lookup {cs : List Column} {names : List String} {c : Column}
    (h : lookup cs names = some c) : c ∈ preorderAll cs := by
  induction names generalizing cs with
  | nil => simp at h
  | cons n rest ih =>
    rcases eq_or_ne rest [] with rfl | hrest
    · rw [lookup_singleton] at h
      exact mem_preorderAll.mpr ⟨c, List.mem_of_find?_eq_some h, self_mem_preorder c⟩
    · rw [lookup_cons hrest, Option.bind_eq_some_iff] at h
      obtain ⟨d, hd, h⟩ := h
      have hbelow : c ∈ d.preorder := mem_preorder_iff.mpr (.inr (ih h))
      exact mem_preorderAll.mpr ⟨d, List.mem_of_find?_eq_some hd, hbelow⟩

/-- A column that was looked up is held by the columns searched, and its path adds the names
looked up to that of their parent. -/
theorem path_of_lookup {parent : Path} {cs : List Column} {names : List String} {c : Column}
    (hcs : ∀ d ∈ cs, d.path = parent.child d.name ∧ d.Anchored)
    (h : lookup cs names = some c) :
    c.path.segments = parent.segments ++ names ∧ c.Anchored ∧ c ∈ preorderAll cs := by
  refine and_assoc.mp ⟨?_, mem_preorderAll_of_lookup h⟩
  induction names generalizing parent cs with
  | nil => simp at h
  | cons n rest ih =>
    have hstep : ∀ d, cs.find? (·.name == n) = some d → d.path = parent.child n ∧ d.Anchored := by
      intro d hd
      have hn : d.name = n := by simpa using List.find?_some hd
      obtain ⟨hpath, hanch⟩ := hcs d (List.mem_of_find?_eq_some hd)
      exact ⟨hn ▸ hpath, hanch⟩
    rcases eq_or_ne rest [] with rfl | hrest
    · rw [lookup_singleton] at h
      obtain ⟨hpath, hanch⟩ := hstep c h
      exact ⟨by rw [hpath]; rfl, hanch⟩
    · rw [lookup_cons hrest, Option.bind_eq_some_iff] at h
      obtain ⟨d, hd, h⟩ := h
      obtain ⟨hpath, hanch⟩ := hstep d hd
      obtain ⟨hseg, hc⟩ := ih hanch.children h
      exact ⟨by rw [hseg, hpath]; simp, hc⟩

/-- The children of a column that was looked up are found under their names. -/
theorem lookup_child {cs : List Column} {names : List String} {c d : Column}
    (hcs : SiblingsDistinct cs) (h : lookup cs names = some c) (hd : d ∈ c.children) :
    lookup cs (names ++ [d.name]) = some d := by
  induction names generalizing cs with
  | nil => simp at h
  | cons n rest ih =>
    rw [List.cons_append, lookup_cons (by simp)]
    rcases eq_or_ne rest [] with rfl | hrest
    · rw [lookup_singleton] at h
      have hc := (siblingsDistinct_iff.mp hcs).2 c (List.mem_of_find?_eq_some h)
      rw [h, Option.bind_some, List.nil_append, lookup_singleton]
      exact find?_name_of_mem (siblingsDistinct_iff.mp hc.children).1 hd
    · rw [lookup_cons hrest, Option.bind_eq_some_iff] at h
      obtain ⟨b, hb, h⟩ := h
      have hbd := (siblingsDistinct_iff.mp hcs).2 b (List.mem_of_find?_eq_some hb)
      rw [hb, Option.bind_some]
      exact ih hbd.children h

/-- Below a column that was looked up, held columns are found by further names. -/
theorem exists_lookup_of_mem_preorder {cs : List Column} (hcs : SiblingsDistinct cs) {c : Column}
    {names : List String} (h : lookup cs names = some c) :
    ∀ d ∈ c.preorder, ∃ more, lookup cs (names ++ more) = some d := by
  induction c using Column.induct generalizing names with
  | value l t =>
    intro d hd
    rw [preorder, List.mem_singleton] at hd
    exact ⟨[], by rw [List.append_nil, hd, h]⟩
  | frame l s =>
    intro d hd
    rw [preorder, List.mem_singleton] at hd
    exact ⟨[], by rw [List.append_nil, hd, h]⟩
  | group l bs ih =>
    intro d hd
    rcases mem_preorder_group.mp hd with rfl | ⟨b, hb, hd⟩
    · exact ⟨[], by rw [List.append_nil, h]⟩
    · obtain ⟨more, hmore⟩ := ih b hb (lookup_child hcs h hb) d hd
      exact ⟨b.name :: more, by rw [← hmore, List.append_assoc]; rfl⟩

namespace WellFormed

variable {t : Tree} (h : t.WellFormed)
include h

theorem names_nodup : (t.columns.map name).Nodup :=
  (siblingsDistinct_iff.mp h.distinct).1

theorem path_of_find? {p : Path} {c : Column} (hc : t.find? p = some c) :
    c.path = p ∧ c.Anchored := by
  obtain ⟨hseg, hanch, -⟩ := path_of_lookup h.placed hc
  exact ⟨Path.ext hseg, hanch⟩

theorem find?_of_mem_columns {c : Column} (hc : c ∈ t.columns) : t.find? c.path = some c := by
  rw [find?, (h.placed c hc).1, Path.segments_child, Path.segments_root, List.nil_append,
    lookup_singleton]
  exact find?_name_of_mem h.names_nodup hc

theorem find?_of_mem_children {p : Path} {c d : Column} (hc : t.find? p = some c)
    (hd : d ∈ c.children) : t.find? d.path = some d := by
  obtain ⟨hpath, hanch⟩ := h.path_of_find? hc
  rw [find?, (hanch.children d hd).1, hpath, Path.segments_child]
  exact lookup_child h.distinct hc hd

/-- Prunings of the columns of a tree make a tree. -/
theorem prune {ds : List Column} (hds : PrunesAll ds t.columns) : WellFormed ⟨ds⟩ where
  placed d hd := by
    obtain ⟨c, hc, hdc⟩ := hds.mem hd
    obtain ⟨hpath, hanch⟩ := h.placed c hc
    exact ⟨by rw [hdc.path_eq, hpath, hdc.name_eq], hanch.prune hdc⟩
  distinct := h.distinct.prune hds

end WellFormed

end Tree

end ColumnSelection
