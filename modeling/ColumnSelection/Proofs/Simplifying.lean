import ColumnSelection.Proofs.Covering
import ColumnSelection.Proofs.Resolution

/-!
# Simplified lists of columns

Simplifying leaves a list without repeated paths in which no column is found inside another, and
changes nothing more in such a list. Between whole columns of one tree a group covers exactly the
paths below its own, so simplifying keeps the first columns of the outermost paths.
-/
namespace ColumnSelection

open Column

/-- A list of columns without repeated paths, where no column's path leads into another group. -/
structure Irredundant (cs : List Column) : Prop where
  paths_nodup : (cs.map path).Nodup
  not_found : ∀ c ∈ cs, ∀ g ∈ cs, ∀ names, c.path.segments = g.path.segments ++ names →
    Tree.lookup g.children names = none

namespace Irredundant

variable {cs : List Column} (h : Irredundant cs)
include h

theorem not_covers {c g : Column} (hc : c ∈ cs) (hg : g ∈ cs) : g.covers c.path = false := by
  rw [← Bool.not_eq_true, covers_iff]
  rintro ⟨names, d, hpath, hd⟩
  rw [h.not_found c hc g hg names hpath] at hd
  cases hd

theorem simplify_eq_self : simplify cs = cs := by
  have hdistinct : distinct cs = cs := distinctFrom_eq_self h.paths_nodup (by simp)
  rw [simplify, hdistinct, List.filter_eq_self]
  intro c hc
  rw [Bool.not_eq_true', List.any_eq_false]
  exact fun g hg => Bool.not_eq_true _ ▸ h.not_covers hc hg

/-- No group of the list holds a column at the path of another column of the list. -/
theorem ne_path_of_mem {c g : Column} (hc : c ∈ cs) (hg : g ∈ cs) (hanch : g.Anchored)
    (hnames : g.NamesDistinct) : ∀ d ∈ preorderAll g.children, d.path ≠ c.path := by
  intro d hd hpath
  have hcovers := (hanch.covers_iff_exists_mem hnames).mpr ⟨d, hd, hpath⟩
  rw [h.not_covers hc hg] at hcovers
  cases hcovers

end Irredundant

theorem nodup_paths_distinctFrom (seen : List Path) (cs : List Column) :
    ((distinctFrom seen cs).map path).Nodup := by
  induction cs generalizing seen with
  | nil => exact List.nodup_nil
  | cons c rest ih =>
    rw [distinctFrom]
    split_ifs
    · exact ih seen
    · rw [List.map_cons, List.nodup_cons, mem_paths_distinctFrom]
      exact ⟨fun hc => hc.2 List.mem_cons_self, ih _⟩

theorem irredundant_simplify (cs : List Column) : Irredundant (simplify cs) where
  paths_nodup := (nodup_paths_distinctFrom [] cs).sublist (List.filter_sublist.map path)
  not_found c hc g hg names hpath := by
    rw [mem_simplify_iff] at hc hg
    rw [Option.eq_none_iff_forall_not_mem]
    intro d hd
    have hcovers : g.covers c.path = true := covers_iff.mpr ⟨names, d, hpath, hd⟩
    rw [hc.2 g hg.1] at hcovers
    cases hcovers

/-- Whether no earlier column of the list has the path of the column at this place. -/
def IsFirst (cs : List Column) (i : Fin cs.length) : Prop :=
  ∀ j < i, cs[j].path ≠ cs[i].path

instance (cs : List Column) : DecidablePred (IsFirst cs) :=
  fun i => inferInstanceAs (Decidable (∀ j < i, cs[j].path ≠ cs[i].path))

/-- The first columns of those paths in the list that lie below no other path in it. -/
def outermost (cs : List Column) : List Column :=
  ((List.finRange cs.length).filter fun i =>
    IsFirst cs i ∧ ∀ d ∈ cs, ¬ d.path.isAncestorOf cs[i].path).map cs.get

theorem isFirst_zero (c : Column) (rest : List Column) :
    IsFirst (c :: rest) (0 : Fin (rest.length + 1)) :=
  fun j hj => absurd hj (Nat.not_lt_zero j)

theorem isFirst_succ {c : Column} {rest : List Column} {i : Fin rest.length} :
    IsFirst (c :: rest) i.succ ↔ c.path ≠ rest[i].path ∧ IsFirst rest i := by
  constructor
  · intro h
    exact ⟨h ⟨0, Nat.succ_pos _⟩ (Nat.succ_pos i), fun j hj => h j.succ (Nat.succ_lt_succ hj)⟩
  · rintro ⟨hc, h⟩ ⟨j, hj⟩ hlt
    cases j with
    | zero => exact hc
    | succ j => exact h ⟨j, Nat.lt_of_succ_lt_succ hj⟩ (Nat.lt_of_succ_lt_succ hlt)

theorem distinctFrom_cons (seen : List Path) (c : Column) (rest : List Column) :
    distinctFrom seen (c :: rest) =
      (if c.path ∈ seen then [] else [c]) ++ distinctFrom (c.path :: seen) rest := by
  rw [distinctFrom]
  split_ifs with hc
  · apply distinctFrom_congr
    intro p
    rw [List.mem_cons]
    constructor
    · exact .inr
    · rintro (rfl | hp)
      · exact hc
      · exact hp
  · rfl

/-- The first column of every path stands at the places before which its path does not occur. -/
theorem distinctFrom_eq_filter (seen : List Path) (cs : List Column) :
    distinctFrom seen cs = ((List.finRange cs.length).filter fun i =>
      IsFirst cs i ∧ cs[i].path ∉ seen).map cs.get := by
  induction cs generalizing seen with
  | nil => rfl
  | cons c rest ih =>
    -- The places after the first are those of the rest, which also looks out for the first path.
    have hplaces : List.finRange (c :: rest).length =
        (0 : Fin (rest.length + 1)) :: (List.finRange rest.length).map Fin.succ :=
      List.finRange_succ
    have hnew : ∀ i : Fin rest.length,
        (IsFirst (c :: rest) i.succ ∧ rest[i].path ∉ seen) ↔
          IsFirst rest i ∧ rest[i].path ∉ c.path :: seen := by
      intro i
      rw [isFirst_succ, List.mem_cons, not_or, ne_comm]
      tauto
    have hrest : ((List.finRange rest.length).map Fin.succ).filter
          (fun i : Fin (c :: rest).length => IsFirst (c :: rest) i ∧ (c :: rest)[i].path ∉ seen) =
        ((List.finRange rest.length).filter fun i =>
          IsFirst rest i ∧ rest[i].path ∉ c.path :: seen).map Fin.succ := by
      rw [List.filter_map]
      exact congrArg _ (List.filter_congr fun i _ => decide_eq_decide.mpr (hnew i))
    rw [distinctFrom_cons, ih, hplaces, List.filter_cons, hrest]
    by_cases hc : c.path ∈ seen
    · simp [hc]
    · simp [hc, isFirst_zero]

namespace Column

mutual

/-- The column without its display name and those below it. -/
def unnamed : Column → Column
  | .value l t => .value { l with shownAs := none } t
  | .group l cs => .group { l with shownAs := none } (unnamedAll cs)
  | .frame l s => .frame { l with shownAs := none } (unnamedAll s)
termination_by structural c => c

/-- The columns of a list without display names. -/
def unnamedAll : List Column → List Column
  | [] => []
  | c :: rest => unnamed c :: unnamedAll rest
termination_by structural cs => cs

end

@[simp] theorem unnamedAll_eq_map (cs : List Column) : unnamedAll cs = cs.map unnamed := by
  induction cs with
  | nil => rfl
  | cons c rest ih => rw [unnamedAll, ih, List.map_cons]

@[simp] theorem path_unnamed (c : Column) : c.unnamed.path = c.path := by
  cases c <;> rfl

@[simp] theorem name_unnamed (c : Column) : c.unnamed.name = c.name := by
  cases c <;> rfl

theorem children_unnamed (c : Column) : c.unnamed.children = c.children.map unnamed := by
  cases c with
  | value l t => rfl
  | frame l s => rfl
  | group l cs => exact unnamedAll_eq_map cs

theorem path_eq_of_unnamed {c d : Column} (h : c.unnamed = d.unnamed) : c.path = d.path := by
  rw [← path_unnamed c, h, path_unnamed]

end Column

namespace Tree

/-- Display names play no part in looking up a column. -/
theorem lookup_map_unnamed (cs : List Column) (names : List String) :
    lookup (cs.map unnamed) names = (lookup cs names).map unnamed := by
  have hfind : ∀ (cs : List Column) (n : String),
      (cs.map unnamed).find? (·.name == n) = (cs.find? (·.name == n)).map unnamed := by
    intro cs n
    rw [List.find?_map]
    simp only [Function.comp_def, name_unnamed]
  induction names generalizing cs with
  | nil => simp
  | cons n rest ih =>
    rcases eq_or_ne rest [] with rfl | hrest
    · rw [lookup_singleton, lookup_singleton, hfind]
    · rw [lookup_cons hrest, lookup_cons hrest, hfind, Option.bind_map, Option.map_bind]
      refine congrArg _ (funext fun c => ?_)
      rw [Function.comp_apply, Function.comp_apply, children_unnamed, ih]

/-- The column is a column of the tree, whole, up to display names. -/
def HasWhole (t : Tree) (c : Column) : Prop :=
  ∃ node ∈ t.depthFirst, c.unnamed = node.unnamed

namespace WellFormed

variable {t : Tree} (h : t.WellFormed)
include h

/-- Between columns of one tree, the names from one down to the other lead to it. -/
theorem exists_lookup_of_hasWhole {c g : Column} (hc : t.HasWhole c) (hg : t.HasWhole g)
    {names : List String} (hne : names ≠ []) (hpath : c.path.segments = g.path.segments ++ names) :
    ∃ d, lookup g.children names = some d ∧ d.unnamed = c.unnamed := by
  obtain ⟨b, hb, hcb⟩ := hc
  obtain ⟨a, ha, hga⟩ := hg
  have hfinda : lookup t.columns g.path.segments = some a := by
    rw [path_eq_of_unnamed hga]
    exact h.find?_of_mem_depthFirst ha
  have hfindb : lookup t.columns (g.path.segments ++ names) = some b := by
    rw [← hpath, path_eq_of_unnamed hcb]
    exact h.find?_of_mem_depthFirst hb
  have hroot : g.path.segments ≠ [] := by
    rintro hnil
    simp [hnil] at hfinda
  rw [lookup_append hroot hne, hfinda, Option.bind_some] at hfindb
  have hbelow : (lookup g.children names).map unnamed = some c.unnamed := by
    rw [← lookup_map_unnamed, ← children_unnamed, hga, children_unnamed, lookup_map_unnamed,
      hfindb, Option.map_some, hcb]
  exact Option.map_eq_some_iff.mp hbelow

/-- Between columns of one tree, a group covers what lies below its path. -/
theorem covers_eq_isAncestorOf {c g : Column} (hc : t.HasWhole c) (hg : t.HasWhole g) :
    g.covers c.path = g.path.isAncestorOf c.path := by
  rw [Bool.eq_iff_iff]
  refine ⟨isAncestorOf_of_covers, fun habove => ?_⟩
  obtain ⟨n, rest, hpath⟩ := (Path.isAncestorOf_iff _ _).mp habove
  obtain ⟨d, hd, -⟩ := h.exists_lookup_of_hasWhole hc hg (List.cons_ne_nil n rest) hpath
  exact covers_iff.mpr ⟨_, d, hpath, hd⟩

end WellFormed

end Tree

section whole

variable {t : Tree} (ht : t.WellFormed) {cs : List Column} (hcs : ∀ c ∈ cs, t.HasWhole c)
include ht hcs

/-- Among columns of one tree, a column is covered when the path of another stands above its own. -/
theorem any_covers_eq_any_isAncestorOf {c : Column} (hc : c ∈ cs) :
    (distinct cs).any (·.covers c.path) = cs.any (·.path.isAncestorOf c.path) := by
  rw [Bool.eq_iff_iff, List.any_eq_true, List.any_eq_true]
  constructor
  · rintro ⟨g, hg, hcovers⟩
    exact ⟨g, (distinct_sublist cs).subset hg, isAncestorOf_of_covers hcovers⟩
  · rintro ⟨g, hg, habove⟩
    obtain ⟨first, hfirst, hpath⟩ := exists_mem_distinct hg
    refine ⟨first, hfirst, ?_⟩
    rw [ht.covers_eq_isAncestorOf (hcs c hc) (hcs first ((distinct_sublist cs).subset hfirst)),
      hpath, habove]

theorem mem_simplify_iff_of_hasWhole {c : Column} :
    c ∈ simplify cs ↔ c ∈ distinct cs ∧ ∀ d ∈ cs, d.path.isAncestorOf c.path = false := by
  rw [simplify, List.mem_filter, Bool.not_eq_true', and_congr_right_iff]
  intro hc
  rw [any_covers_eq_any_isAncestorOf ht hcs ((distinct_sublist cs).subset hc)]
  simp

theorem simplify_eq_outermost_of_hasWhole : simplify cs = outermost cs := by
  have huncovered : ∀ c ∈ distinct cs, (!(distinct cs).any (·.covers c.path)) =
      decide (∀ d ∈ cs, ¬ d.path.isAncestorOf c.path) := by
    intro c hc
    rw [any_covers_eq_any_isAncestorOf ht hcs ((distinct_sublist cs).subset hc), Bool.eq_iff_iff]
    simp
  rw [simplify, List.filter_congr huncovered, distinct, distinctFrom_eq_filter, List.filter_map,
    List.filter_filter, outermost]
  refine congrArg _ (List.filter_congr fun i _ => ?_)
  simp [Bool.and_comm]

/-- No column is lost: its path is among the results, or one of them holds the column below. -/
theorem exists_mem_simplify_of_hasWhole {c : Column} (hc : c ∈ cs) :
    (∃ g ∈ simplify cs, g.path = c.path) ∨
      ∃ g ∈ simplify cs, ∃ d ∈ preorderAll g.children, d.unnamed = c.unnamed := by
  obtain ⟨outer, houter, hstart, habove⟩ := exists_outermost hc
  obtain ⟨g, hg, hpath⟩ := exists_mem_distinct houter
  rw [← hpath] at hstart habove
  have hkept : g ∈ simplify cs := (mem_simplify_iff_of_hasWhole ht hcs).mpr ⟨hg, habove⟩
  have hgcs := (distinct_sublist cs).subset hg
  obtain ⟨names, hnames⟩ := Path.startsWith_iff_segments.mp hstart
  rcases eq_or_ne names [] with rfl | hne
  · rw [List.append_nil] at hnames
    exact .inl ⟨g, hkept, Path.ext hnames⟩
  · obtain ⟨d, hd, hdc⟩ := ht.exists_lookup_of_hasWhole (hcs c hc) (hcs g hgcs) hne hnames.symm
    exact .inr ⟨g, hkept, d, Tree.mem_preorderAll_of_lookup hd, hdc⟩

end whole

/-- Simplifying picks columns of the list that repeat no path, and does nothing when done again.
In every list, the names that lead from one column picked to the path of another find nothing below
it. That it holds no column with that path is said of groups alone whose children stand in their
places and have distinct names, since a name finds the first child that has it. From whole columns
of one tree it picks the first of the outermost paths, and all others repeat a path that was picked
or are held below a column that was. -/
theorem simplify_irredundant_outermost (cs : List Column) :
    (simplify cs).Sublist cs ∧ Irredundant (simplify cs) ∧
      (∀ c ∈ simplify cs, ∀ g ∈ simplify cs, g.Anchored → g.NamesDistinct →
        ∀ d ∈ preorderAll g.children, d.path ≠ c.path) ∧
      simplify (simplify cs) = simplify cs ∧
      ∀ bs t, Tree.build bs = .ok t → (∀ c ∈ cs, t.HasWhole c) →
        simplify cs = outermost cs ∧
          ∀ c ∈ cs, (∃ g ∈ simplify cs, g.path = c.path) ∨
            ∃ g ∈ simplify cs, ∃ d ∈ preorderAll g.children, d.unnamed = c.unnamed := by
  have hsimple := irredundant_simplify cs
  refine ⟨simplify_sublist cs, hsimple, ?_, hsimple.simplify_eq_self, ?_⟩
  · intro c hc g hg
    exact hsimple.ne_path_of_mem hc hg
  · intro bs t ht hcs
    have hwf := Tree.WellFormed.of_build ht
    exact ⟨simplify_eq_outermost_of_hasWhole hwf hcs,
      fun c hc => exists_mem_simplify_of_hasWhole hwf hcs hc⟩

/-- A nested group comes under two names, after a column that it holds; a column is repeated. -/
theorem simplify_irredundant_outermost_nested :
    let x := Column.value ⟨"x", ⟨["g", "h", "x"]⟩, none⟩ ⟨.int, false⟩
    let h := Column.group ⟨"h", ⟨["g", "h"]⟩, none⟩ [x]
    let z := Column.frame ⟨"z", ⟨["g", "z"]⟩, none⟩ [topValue "b" ⟨.any, true⟩]
    let g := Column.group ⟨"g", ⟨["g"]⟩, none⟩ [h, z]
    let a := topValue "a" ⟨.bool, false⟩
    let cs := [x, h.named "k", a, h, z.named "w", a.named "b"]
    Tree.build [g, a] = .ok ⟨[g, a]⟩ ∧ (∀ c ∈ cs, (Tree.mk [g, a]).HasWhole c) ∧
      simplify cs = [h.named "k", a, z.named "w"] ∧ simplify cs = outermost cs ∧
        ∀ c ∈ cs, (∃ g ∈ simplify cs, g.path = c.path) ∨
          ∃ g ∈ simplify cs, ∃ d ∈ preorderAll g.children, d.unnamed = c.unnamed := by
  intro x h z g a cs
  have hbuild : Tree.build [g, a] = .ok ⟨[g, a]⟩ := rfl
  have hdepth : (Tree.mk [g, a]).depthFirst = [g, h, x, z, a] := rfl
  have hcs : ∀ c ∈ cs, (Tree.mk [g, a]).HasWhole c := by
    simp only [Tree.HasWhole, hdepth, cs, List.forall_mem_cons]
    exact ⟨⟨x, by simp, rfl⟩, ⟨h, by simp, rfl⟩, ⟨a, by simp, rfl⟩, ⟨h, by simp, rfl⟩,
      ⟨z, by simp, rfl⟩, ⟨a, by simp, rfl⟩, by simp⟩
  exact ⟨hbuild, hcs, rfl, (simplify_irredundant_outermost cs).2.2.2.2 _ _ hbuild hcs⟩

/-- Two children have one name, and the second holds a column that is also in the list. The names
find the first, which holds nothing, so that the group and the column that it holds are kept. -/
theorem simplify_keeps_held_of_repeated_name :
    let g := topGroup "g" [topValue "x" ⟨.int, false⟩, topGroup "x" [topValue "y" ⟨.int, false⟩]]
    let y := Column.value ⟨"y", ⟨["g", "x", "y"]⟩, none⟩ ⟨.int, false⟩
    g.Anchored ∧ ¬ g.NamesDistinct ∧ simplify [g, y] = [g, y] ∧ y ∈ preorderAll g.children := by
  intro g y
  refine ⟨⟨rfl, trivial, rfl, ⟨rfl, trivial, trivial⟩, trivial⟩, ?_, rfl, ?_⟩
  · intro h
    exact absurd h.1 (by decide)
  · exact .tail _ (.tail _ (.head _))

end ColumnSelection
