import ColumnSelection.Proofs.Collapsing
import ColumnSelection.Proofs.Removal

/-!
# Excluding by a predicate

A predicate made of conditions on the name, the kind and the declared type does not tell a column
from a pruning of it. Excluding everything that it finds at any depth of a tree therefore leaves
nothing that it finds, and keeps the leaves that it finds neither themselves nor by a group above
them.
-/
namespace ColumnSelection

open Column

namespace Predicate

/-- A predicate built without a test of its own, at any depth. -/
inductive CustomFree : Predicate → Prop
  | any : CustomFree .any
  | nameEquals (text ignoreCase) : CustomFree (.nameEquals text ignoreCase)
  | nameContains (text ignoreCase) : CustomFree (.nameContains text ignoreCase)
  | nameStartsWith (text ignoreCase) : CustomFree (.nameStartsWith text ignoreCase)
  | nameEndsWith (text ignoreCase) : CustomFree (.nameEndsWith text ignoreCase)
  | nameMatches (pattern) : CustomFree (.nameMatches pattern)
  | kindIn (kinds) : CustomFree (.kindIn kinds)
  | typeBelow (type) : CustomFree (.typeBelow type)
  | not {p} : CustomFree p → CustomFree (.not p)
  | allOf {ps} : (∀ p ∈ ps, CustomFree p) → CustomFree (.allOf ps)
  | anyOf {ps} : (∀ p ∈ ps, CustomFree p) → CustomFree (.anyOf ps)

variable {p : Predicate} {c d : Column}

theorem CustomFree.holds_congr (hp : p.CustomFree) (hname : c.name = d.name)
    (hkind : c.kind = d.kind) (htype : c.type? = d.type?) : p.holds c = p.holds d := by
  induction hp with
  | any => rfl
  | nameEquals | nameContains | nameStartsWith | nameEndsWith | nameMatches =>
    simp only [holds, hname]
  | kindIn kinds => simp only [holds, hkind]
  | typeBelow type => simp only [holds, htype]
  | not _ ih => simp only [holds, ih]
  | allOf _ ih =>
    rw [holds, holds, allHold_eq_all, allHold_eq_all, Bool.eq_iff_iff, List.all_eq_true,
      List.all_eq_true]
    exact forall₂_congr fun q hq => by rw [ih q hq]
  | anyOf _ ih =>
    rw [holds, holds, anyHolds_eq_any, anyHolds_eq_any, Bool.eq_iff_iff, List.any_eq_true,
      List.any_eq_true]
    exact exists_congr fun q => and_congr_right fun hq => by rw [ih q hq]

theorem CustomFree.holds_prune (hp : p.CustomFree) (h : d.Prunes c) : p.holds d = p.holds c := by
  have htype : d.type? = c.type? := by
    cases h <;> rfl
  exact hp.holds_congr h.name_eq h.kind_eq htype

end Predicate

namespace Tree

variable {t : Tree}

/-- The columns of a tree that hold the one at a path: that column and the groups above it. -/
def lineage (t : Tree) (p : Path) : List Column :=
  t.depthFirst.filter fun d => d.preorder.any fun c => c.path = p

theorem mem_lineage {p : Path} {d : Column} :
    d ∈ t.lineage p ↔ d ∈ t.depthFirst ∧ ∃ c ∈ d.preorder, c.path = p := by
  simp [lineage]

/-- The lineage of a column consists of the columns whose paths its own path starts with. -/
theorem WellFormed.mem_lineage_iff (h : t.WellFormed) {l d : Column} (hl : l ∈ t.depthFirst) :
    d ∈ t.lineage l.path ↔ d ∈ t.depthFirst ∧ l.path.startsWith d.path := by
  rw [mem_lineage]
  apply and_congr_right
  intro hd
  constructor
  · rintro ⟨c, hc, hpath⟩
    have hanch : d.Anchored := (h.path_of_find? (h.find?_of_mem_depthFirst hd)).2
    rw [← hpath]
    exact (hanch.of_mem_preorder c hc).1
  · intro hstart
    exact ⟨l, h.mem_preorder_of_startsWith hd hl hstart, rfl⟩

/-- The paths of the columns that a predicate finds at any depth. -/
def pathsOf (t : Tree) (p : Predicate) : List Path :=
  (t.depthFirst.filter fun c => p.holds c).map path

theorem mem_pathsOf {p : Predicate} {q : Path} :
    q ∈ t.pathsOf p ↔ ∃ c ∈ t.depthFirst, p.holds c ∧ c.path = q := by
  simp [pathsOf, and_assoc]

theorem WellFormed.any_pathsOf (h : t.WellFormed) (p : Predicate) {l : Column}
    (hl : l ∈ t.depthFirst) :
    (t.pathsOf p).any l.path.startsWith = (t.lineage l.path).any fun c => p.holds c := by
  rw [Bool.eq_iff_iff, List.any_eq_true, List.any_eq_true]
  constructor
  · rintro ⟨q, hq, hstart⟩
    obtain ⟨c, hc, hholds, rfl⟩ := mem_pathsOf.mp hq
    exact ⟨c, (h.mem_lineage_iff hl).mpr ⟨hc, hstart⟩, hholds⟩
  · rintro ⟨c, hc, hholds⟩
    obtain ⟨hmem, hstart⟩ := (h.mem_lineage_iff hl).mp hc
    exact ⟨c.path, mem_pathsOf.mpr ⟨c, hmem, hholds, rfl⟩, hstart⟩

theorem WellFormed.not_holds_of_mem_exceptColumns (h : t.WellFormed) {p : Predicate}
    (hp : p.CustomFree) {d : Column}
    (hd : d ∈ preorderAll (exceptColumns t.columns (t.pathsOf p))) : p.holds d = false := by
  obtain ⟨top, htop, hd⟩ := mem_preorderAll.mp hd
  rw [exceptColumns, excludeAll_eq_filterMap] at htop
  obtain ⟨c, hc, hrest⟩ := List.mem_filterMap.mp htop
  obtain ⟨a, ha, had⟩ := exists_of_mem_exclude? (h.placed c hc).2 hrest hd
  have hmem : a ∈ t.depthFirst := mem_preorderAll.mpr ⟨c, hc, ha⟩
  rw [hp.holds_prune (prunes_of_exclude? had), Bool.eq_false_iff]
  intro hholds
  exact path_not_mem_of_exclude? had (mem_pathsOf.mpr ⟨a, hmem, hholds, rfl⟩)

theorem WellFormed.outcome_select_except_anyDepth (h : t.WellFormed) (p : Predicate)
    (settings : Settings) :
    (t.select (.except .all (.anyDepth p)) settings).outcome =
      .ok (exceptColumns t.columns (t.pathsOf p)) := by
  have hprune : PrunesAll (exceptColumns t.columns (t.pathsOf p)) t.columns :=
    excludeAll_prunesAll _ _
  have hdistinct := (h.prune hprune).distinct_columns
  have hfound : (Selection.resolve { tree := t, settings := settings } (.anyDepth p)).outcome =
      .ok (t.depthFirst.filter fun c => p.holds c) :=
    congrArg Logged.outcome (Selection.resolve_anyDepth _ p)
  rw [select, Selection.outcome_resolve_except rfl hfound]
  exact congrArg _ hdistinct

/-- Excluding what a predicate finds at any depth leaves no column that it finds at any depth, and
of the leaves of the tree, in their order, those without such a column in their lineage. -/
theorem select_except_anyDepth {columns : List Column} (ht : build columns = .ok t) {p : Predicate}
    (hp : p.CustomFree) (settings : Settings) :
    ∃ cs, (t.select (.except .all (.anyDepth p)) settings).outcome = .ok cs ∧
      (∀ c ∈ preorderAll cs, p.holds c = false) ∧
      leavesAll cs =
        (leavesAll t.columns).filter fun l => !(t.lineage l.path).any fun c => p.holds c := by
  have hwf := WellFormed.of_build ht
  have hroot : ∀ q ∈ t.pathsOf p, q ≠ .root := by
    intro q hq
    obtain ⟨c, hc, -, rfl⟩ := mem_pathsOf.mp hq
    exact hwf.path_ne_root (List.mem_map_of_mem hc)
  refine ⟨_, hwf.outcome_select_except_anyDepth p settings, ?_, ?_⟩
  · intro c hc
    exact hwf.not_holds_of_mem_exceptColumns hp hc
  · rw [hwf.leavesAll_exceptColumns hroot]
    apply List.filter_congr
    intro l hl
    rw [hwf.any_pathsOf p (List.mem_filter.mp hl).1]

/-- Leaves are found by their type and a group by its name; a leaf of that group goes with it. -/
theorem select_except_anyDepth_nested :
    let h := topGroup "h" [topValue "z" ⟨.string, false⟩, topValue "x" ⟨.int, false⟩]
    let g := topGroup "g" [topValue "x" ⟨.int, false⟩, h, topValue "y" ⟨.any, true⟩]
    let t : Tree := ⟨[topValue "a" ⟨.string, false⟩, g]⟩
    let int := Predicate.allOf [.kindIn [.value], .typeBelow ⟨.int, true⟩]
    let p := Predicate.anyOf [.nameEquals "h" false, int]
    build t.columns = .ok t ∧ p.CustomFree ∧
      ∃ cs, (t.select (.except .all (.anyDepth p)) {}).outcome = .ok cs ∧
        (∀ c ∈ preorderAll cs, p.holds c = false) ∧
        (leavesAll cs).map path = [⟨["a"]⟩, ⟨["g", "y"]⟩] := by
  intro h g t int p
  have ht : build t.columns = .ok t := rfl
  have hp : p.CustomFree := by
    refine .anyOf fun q hq => ?_
    simp only [List.mem_cons, List.not_mem_nil, or_false] at hq
    rcases hq with rfl | rfl
    · exact .nameEquals _ _
    · refine .allOf fun r hr => ?_
      simp only [List.mem_cons, List.not_mem_nil, or_false] at hr
      rcases hr with rfl | rfl
      · exact .kindIn _
      · exact .typeBelow _
  obtain ⟨cs, hselect, hnone, hleaves⟩ := select_except_anyDepth ht hp {}
  refine ⟨ht, hp, cs, hselect, hnone, ?_⟩
  rw [hleaves]
  rfl

end Tree

end ColumnSelection
