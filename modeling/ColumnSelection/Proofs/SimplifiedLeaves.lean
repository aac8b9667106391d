import ColumnSelection.Proofs.Covering
import ColumnSelection.Selection.Resolve

/-!
# Leaves held before and after simplifying

A column is dropped when its path leads into another group of the list, whether or not the column
found there holds as much. So a leaf survives unless the outermost column that holds it is found,
without the leaf, in a group further up.
-/
namespace ColumnSelection

open Column

/-- Whether the column holds a value or frame column with this path, or is one itself. -/
def Column.HoldsLeaf (c : Column) (p : Path) : Prop :=
  p ∈ c.leaves.map path

instance (c : Column) (p : Path) : Decidable (c.HoldsLeaf p) :=
  inferInstanceAs (Decidable (p ∈ c.leaves.map path))

theorem mem_paths_leavesAll {cs : List Column} {p : Path} :
    p ∈ (leavesAll cs).map path ↔ ∃ c ∈ cs, c.HoldsLeaf p := by
  simp only [leavesAll_eq_flatMap, List.map_flatMap, List.mem_flatMap, HoldsLeaf]

namespace Column

theorem Anchored.startsWith_of_holdsLeaf {c : Column} (hc : c.Anchored) {p : Path}
    (hp : c.HoldsLeaf p) : p.startsWith c.path = true := by
  obtain ⟨d, hd, rfl⟩ := List.mem_map.mp hp
  exact (hc.of_mem_preorder d (mem_preorder_of_mem_leaves hd)).1

/-- A group covers the paths on the way down to a leaf that it holds. -/
theorem Anchored.covers_of_holdsLeaf {c : Column} (hc : c.Anchored) (hnames : c.NamesDistinct)
    {p q : Path} (hp : c.HoldsLeaf p) (hcq : c.path.isAncestorOf q = true)
    (hqp : p.startsWith q = true) : c.covers q = true := by
  obtain ⟨d, hd, rfl⟩ := List.mem_map.mp hp
  rcases mem_preorder_iff.mp (mem_preorder_of_mem_leaves hd) with rfl | hd
  · obtain ⟨hstart, hne⟩ := Path.isAncestorOf_iff_ne.mp hcq
    exact absurd (Path.startsWith_antisymm hqp hstart) hne
  · exact hc.covers_of_mem hnames hd hcq hqp

end Column

/-- The column is the outermost one of the list to hold the leaf, and yet its path leads into a
group of the list. -/
structure Shadows (cs : List Column) (p : Path) (g c : Column) : Prop where
  group_mem : g ∈ cs
  mem : c ∈ cs
  covers : g.covers c.path = true
  holds : c.HoldsLeaf p
  outermost : ∀ d ∈ cs, d.path.isAncestorOf c.path = true → ¬ d.HoldsLeaf p

/-- The group that shadows the holder of a leaf does not hold the leaf. -/
theorem Shadows.not_holds {cs : List Column} {p : Path} {g c : Column} (h : Shadows cs p g c) :
    ¬ g.HoldsLeaf p :=
  h.outermost g h.group_mem (isAncestorOf_of_covers h.covers)

/-- Of the columns that hold a leaf, one has none of the others above it. -/
theorem exists_outermost_holder {cs : List Column} {c : Column} {p : Path} (hc : c ∈ cs)
    (hp : c.HoldsLeaf p) :
    ∃ g ∈ cs, g.HoldsLeaf p ∧ c.path.startsWith g.path = true ∧
      ∀ d ∈ cs, d.path.isAncestorOf g.path = true → ¬ d.HoldsLeaf p := by
  have hholder : c ∈ cs.filter (·.HoldsLeaf p) := List.mem_filter.mpr ⟨hc, decide_eq_true hp⟩
  obtain ⟨g, hg, hstart, houter⟩ := exists_outermost hholder
  obtain ⟨hgcs, hgp⟩ := List.mem_filter.mp hg
  refine ⟨g, hgcs, of_decide_eq_true hgp, hstart, fun d hd habove hdp => ?_⟩
  have hdholder : d ∈ cs.filter (·.HoldsLeaf p) := List.mem_filter.mpr ⟨hd, decide_eq_true hdp⟩
  rw [houter d hdholder] at habove
  cases habove

section lost

variable {cs : List Column} (hpaths : (cs.map path).Nodup) {p : Path}
include hpaths

theorem mem_simplify_iff_of_nodup {c : Column} :
    c ∈ simplify cs ↔ c ∈ cs ∧ ∀ g ∈ cs, g.covers c.path = false := by
  have hdistinct : distinct cs = cs := distinctFrom_eq_self hpaths (by simp)
  rw [mem_simplify_iff, hdistinct]

theorem exists_shadows_of_lost (hp : ∃ c ∈ cs, c.HoldsLeaf p)
    (hlost : ∀ c ∈ simplify cs, ¬ c.HoldsLeaf p) : ∃ g c, Shadows cs p g c := by
  obtain ⟨b, hb, hbp⟩ := hp
  obtain ⟨c, hc, hcp, -, houter⟩ := exists_outermost_holder hb hbp
  have hcovered : ¬ ∀ g ∈ cs, g.covers c.path = false := fun h =>
    hlost c ((mem_simplify_iff_of_nodup hpaths).mpr ⟨hc, h⟩) hcp
  simp only [not_forall, Bool.not_eq_false] at hcovered
  obtain ⟨g, hg, hgc⟩ := hcovered
  exact ⟨g, c, hg, hc, hgc, hcp, houter⟩

/-- Further down, the columns that hold the leaf are covered by the outermost one. -/
theorem lost_of_shadows (hcs : ∀ c ∈ cs, c.Anchored ∧ c.NamesDistinct) {g c : Column}
    (h : Shadows cs p g c) : ∀ d ∈ simplify cs, ¬ d.HoldsLeaf p := by
  intro d hd hdp
  obtain ⟨hdcs, hkept⟩ := (mem_simplify_iff_of_nodup hpaths).mp hd
  have hne : d ≠ c := by
    rintro rfl
    have hcovers := h.covers
    rw [hkept g h.group_mem] at hcovers
    cases hcovers
  obtain ⟨hanch, hnames⟩ := hcs c h.mem
  have hpc := Path.startsWith_iff_segments.mp (hanch.startsWith_of_holdsLeaf h.holds)
  have hpd := Path.startsWith_iff_segments.mp ((hcs d hdcs).1.startsWith_of_holdsLeaf hdp)
  have hpathne : d.path ≠ c.path := fun he => hne (List.inj_on_of_nodup_map hpaths hdcs h.mem he)
  -- Both paths lie on the way to the leaf, so one of the columns stands above the other.
  rcases List.prefix_or_prefix_of_prefix hpd hpc with hdc | hcd
  · have habove : d.path.isAncestorOf c.path = true :=
      Path.isAncestorOf_iff_ne.mpr ⟨Path.startsWith_iff_segments.mpr hdc, hpathne⟩
    exact h.outermost d hdcs habove hdp
  · have habove : c.path.isAncestorOf d.path = true :=
      Path.isAncestorOf_iff_ne.mpr ⟨Path.startsWith_iff_segments.mpr hcd, hpathne.symm⟩
    have hcovers := hanch.covers_of_holdsLeaf hnames h.holds habove
      (Path.startsWith_iff_segments.mpr hpd)
    rw [hkept c h.mem] at hcovers
    cases hcovers

end lost

/-- Of columns with distinct paths, with children in their places, simplifying loses no leaf but
those whose outermost holder leads into a group without them; and where siblings have distinct names
it loses all of these. -/
theorem leaf_kept_or_shadowed {cs : List Column} (hpaths : (cs.map path).Nodup)
    (hcs : ∀ c ∈ cs, c.Anchored) {p : Path} (hp : p ∈ (leavesAll cs).map path) :
    (p ∈ (leavesAll (simplify cs)).map path ∨ ∃ g c, Shadows cs p g c ∧ ¬ g.HoldsLeaf p) ∧
      ((∀ c ∈ cs, c.NamesDistinct) → ∀ g c, Shadows cs p g c →
        p ∉ (leavesAll (simplify cs)).map path) := by
  rw [mem_paths_leavesAll] at hp ⊢
  constructor
  · by_cases hkept : ∃ c ∈ simplify cs, c.HoldsLeaf p
    · exact .inl hkept
    · simp only [not_exists, not_and] at hkept
      obtain ⟨g, c, h⟩ := exists_shadows_of_lost hpaths hp hkept
      exact .inr ⟨g, c, h, h.not_holds⟩
  · rintro hnames g c h ⟨d, hd, hdp⟩
    exact lost_of_shadows hpaths (fun c hc => ⟨hcs c hc, hnames c hc⟩) h d hd hdp

/-- A nested group comes whole, and without one of its columns inside a rebuilt group. -/
theorem leaf_kept_or_shadowed_rebuilt :
    let x := Column.value ⟨"x", ⟨["g", "h", "x"]⟩, none⟩ ⟨.int, false⟩
    let y := Column.value ⟨"y", ⟨["g", "h", "y"]⟩, none⟩ ⟨.int, false⟩
    let h := Column.group ⟨"h", ⟨["g", "h"]⟩, none⟩ [x, y]
    let g := Column.group ⟨"g", ⟨["g"]⟩, none⟩ [.group ⟨"h", ⟨["g", "h"]⟩, none⟩ [y]]
    let cs := [g, h]
    (cs.map path).Nodup ∧ (∀ c ∈ cs, c.Anchored) ∧ (∀ c ∈ cs, c.NamesDistinct) ∧
      x.path ∈ (leavesAll cs).map path ∧ y.path ∈ (leavesAll cs).map path ∧
      Shadows cs x.path g h ∧ x.path ∉ (leavesAll (simplify cs)).map path ∧
      (y.path ∈ (leavesAll (simplify cs)).map path ∨
        ∃ g c, Shadows cs y.path g c ∧ ¬ g.HoldsLeaf y.path) := by
  intro x y h g cs
  have hpaths : (cs.map path).Nodup := by decide
  have hcs : ∀ c ∈ cs, c.Anchored := by
    simp [cs, g, h, x, y, Anchored, AnchoredAll, Path.child]
  have hnames : ∀ c ∈ cs, c.NamesDistinct := by
    simp [cs, g, h, x, y, NamesDistinct, SiblingsDistinct]
  have hx : x.path ∈ (leavesAll cs).map path := by decide
  have hy : y.path ∈ (leavesAll cs).map path := by decide
  have hshadows : Shadows cs x.path g h :=
    ⟨by simp [cs], by simp [cs], by decide, by decide, by decide⟩
  exact ⟨hpaths, hcs, hnames, hx, hy, hshadows,
    (leaf_kept_or_shadowed hpaths hcs hx).2 hnames g h hshadows,
    (leaf_kept_or_shadowed hpaths hcs hy).1⟩

/-- A group rebuilt around a nested group hides a column that the list holds: the nested group,
selected whole beside it, is dropped although only it holds the column. -/
theorem exists_leaf_lost :
    ∃ (t : Tree) (cs : List Column) (p : Path), Tree.build t.columns = .ok t ∧
      (t.select (.and (.allExcept (.columns [.path p]))
        (.columns [.path ⟨["g", "h"]⟩])) {}).outcome = .ok cs ∧
      (cs.map path).Nodup ∧ (∀ c ∈ cs, c.Anchored) ∧ p ∈ (leavesAll cs).map path ∧
      p ∉ (leavesAll (simplify cs)).map path := by
  let x : Column := .value ⟨"x", ⟨["g", "h", "x"]⟩, none⟩ ⟨.int, false⟩
  let y : Column := .value ⟨"y", ⟨["g", "h", "y"]⟩, none⟩ ⟨.int, false⟩
  let whole : Column := .group ⟨"h", ⟨["g", "h"]⟩, none⟩ [x, y]
  let rebuilt : Column := .group ⟨"g", ⟨["g"]⟩, none⟩ [.group ⟨"h", ⟨["g", "h"]⟩, none⟩ [y]]
  have hanch : ∀ c ∈ [rebuilt, whole], c.Anchored := by
    simp [rebuilt, whole, x, y, Anchored, AnchoredAll, Path.child]
  exact ⟨⟨[.group ⟨"g", ⟨["g"]⟩, none⟩ [whole]]⟩, [rebuilt, whole], x.path, rfl, rfl, by decide,
    hanch, by decide, by decide⟩

end ColumnSelection
