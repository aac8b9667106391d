import ColumnSelection.Proofs.Reinference
import ColumnSelection.Proofs.Removal

/-!
# The schema of a projected table

A table made from a batch can be projected onto whatever exclusion leaves of its columns. The
projected rows then show exactly the schema that the projection declares: inference on them makes
the projected table again.
-/
namespace ColumnSelection

open Column

namespace Table

/-- Projecting an inferred table onto prunings of its columns gives a table with these columns,
which is also the one inferred from its rows. -/
theorem project_prunesAll {batch : List Record} (hmerged : ∀ r ∈ batch, r.payload.Merged)
    {t : Table} (htable : ofRecords batch = .ok t) {ds : List Column}
    (hds : PrunesAll ds t.tree.columns) :
    ∃ p, t.project ds = .ok p ∧ p.tree.columns = ds ∧ ofRecords p.records = .ok p := by
  obtain ⟨hinfer, rfl⟩ := ofRecords_eq_ok_iff.mp htable
  have hbare := Bare.prune_of_mem hds (Tree.bare_of_infer hinfer)
  have hdistinct := (Tree.WellFormed.of_infer hinfer).distinct.prune hds
  refine ⟨_, project_eq _ hbare hdistinct, rfl, ?_⟩
  exact ofRecords_eq_ok_iff.mpr ⟨Tree.infer_project hmerged hinfer hds, rfl⟩

/-- Excluding any paths from the columns of an inferred table leaves columns that it can be
projected onto, and inference on the projected rows finds exactly these columns again. -/
theorem project_exceptColumns {batch : List Record} (hmerged : ∀ r ∈ batch, r.payload.Merged)
    {t : Table} (htable : ofRecords batch = .ok t) (paths : List Path) :
    ∃ p, t.project (exceptColumns t.tree.columns paths) = .ok p ∧
      p.tree.columns = exceptColumns t.tree.columns paths ∧ ofRecords p.records = .ok p :=
  project_prunesAll hmerged htable (excludeAll_prunesAll paths t.tree.columns)

/-- A column is removed, another one vanishes with the group that it leaves empty, and one path
leads nowhere. -/
theorem project_exceptColumns_nested :
    let batch : List Record :=
      [⟨some "1", .obj [("a", .int 1), ("g", .obj [("h", .obj [("y", .bool true)]), ("x", .int 2)]),
        ("f", .arr [.obj [("b", .int 3)], .null])]⟩,
        ⟨none, .obj [("g", .null)]⟩, ⟨none, .obj [("f", .arr [.int 4]), ("g", .obj [])]⟩]
    let h := topGroup "h" [topValue "y" ⟨.bool, false⟩]
    let x := topValue "x" ⟨.int, true⟩
    let f := topFrame "f" [topValue "b" ⟨.int, false⟩]
    let t : Table := ⟨⟨[topValue "a" ⟨.int, true⟩, topGroup "g" [h, x], f]⟩, batch⟩
    let paths : List Path := [⟨["a"]⟩, ⟨["g", "h", "y"]⟩, ⟨["g", "z"]⟩]
    (∀ r ∈ batch, r.payload.Merged) ∧ ofRecords batch = .ok t ∧
      exceptColumns t.tree.columns paths = [topGroup "g" [x], f] ∧
      ∃ p, t.project (exceptColumns t.tree.columns paths) = .ok p ∧
        p.tree.columns = exceptColumns t.tree.columns paths ∧ ofRecords p.records = .ok p := by
  intro batch h x f t paths
  have hmerged : ∀ r ∈ batch, r.payload.Merged := by
    simp [batch, Json.Merged, Json.MergedFields, Json.MergedItems]
  have htable : ofRecords batch = .ok t := rfl
  exact ⟨hmerged, htable, rfl, project_exceptColumns hmerged htable paths⟩

end Table

end ColumnSelection
