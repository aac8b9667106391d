import ColumnSelection.Proofs.Levels
import ColumnSelection.Proofs.Projection
import ColumnSelection.Proofs.Referencing

/-!
# Cells of columns without nulls

Whether a value column accepts nulls is decided among the objects of its own level. So a column
that accepts none has a cell in every one of these objects, but a row in which the group around it
is null or missing has no cell there at all, and projecting the column by itself fills in null.
-/
namespace ColumnSelection

open Column Json

namespace Column

/-- A value column that accepts no nulls has a cell other than null in every object of its level. -/
theorem DescribesLevel.exists_get? {objects : List (List (String × Json))} {cs : List Column}
    (h : DescribesLevel objects cs) {l : Label} {t : DataType} (hc : Column.value l t ∈ cs)
    (ht : t.nullable = false) {o : List (String × Json)} (ho : o ∈ objects) :
    ∃ j, Entries.get? l.name o = some j ∧ j ≠ .null := by
  obtain ⟨-, he⟩ := h.each _ hc
  rw [name_value] at he
  rw [he, cellType, Bool.or_eq_false_iff, Bool.or_eq_false_iff] at ht
  obtain ⟨⟨hlacks, hnull⟩, -⟩ := ht
  cases hj : Entries.get? l.name o with
  | none =>
    have hfound := List.any_eq_false.mp hlacks o ho
    rw [hj] at hfound
    exact absurd rfl hfound
  | some j =>
    have hmem : j ∈ cellsUnder l.name objects := List.mem_filterMap.mpr ⟨o, ho, hj⟩
    refine ⟨j, rfl, ?_⟩
    rintro rfl
    exact List.any_eq_false.mp hnull _ hmem rfl

/-- Along the path of a value column that accepts no nulls there is a cell, other than null, exactly
where the path up to the column leads to an object. -/
theorem DescribesLevel.exists_cellAt_iff {objects : List (List (String × Json))}
    {cs : List Column} (h : DescribesLevel objects cs) {upper : List String} {n : String}
    {l : Label} {t : DataType} (hc : Tree.lookup cs (upper ++ [n]) = some (.value l t))
    (ht : t.nullable = false) {o : List (String × Json)} (ho : o ∈ objects) :
    (∃ j, Record.cellAt (obj o) (upper ++ [n]) = some j ∧ j ≠ .null) ↔
      ∃ fields, Record.cellAt (obj o) upper = some (obj fields) := by
  obtain ⟨below, ds, hbelow, hmem, hn, hreach⟩ := h.exists_level hc
  rw [name_value] at hn
  rw [Record.cellAt_append]
  constructor
  · rintro ⟨j, hj, -⟩
    obtain ⟨above, habove, hj⟩ := Option.bind_eq_some_iff.mp hj
    cases above with
    | obj fields => exact ⟨fields, habove⟩
    | _ => cases hj
  · rintro ⟨fields, hfields⟩
    obtain ⟨j, hj, hne⟩ := hbelow.exists_get? hmem ht ((hreach fields).mpr ⟨o, ho, hfields⟩)
    refine ⟨j, ?_, hne⟩
    rw [hfields, Option.bind_some, Record.cellAt_cons, Json.get?, ← hn, hj]
    rfl

end Column

namespace Table

/-- In the rows of an inferred table, a value column that accepts no nulls has a cell other than
null exactly where the object around it is there, and is projected to null everywhere else. -/
theorem exists_valueAt_iff_of_not_nullable {batch : List Record}
    (hmerged : ∀ r ∈ batch, r.payload.Merged) {t : Table} (htable : ofRecords batch = .ok t)
    {l : Label} {type : DataType} (hc : Column.value l type ∈ t.tree.depthFirst)
    (hn : type.nullable = false) :
    ∃ parent, l.path = parent.child l.name ∧ ∀ r ∈ batch,
      ((∃ j, r.valueAt l.path = some j ∧ j ≠ .null) ↔
        ∃ fields, r.valueAt parent = some (.obj fields)) ∧
      (r.projectCell (.value l type) = .null ↔
        ∀ fields, r.valueAt parent ≠ some (.obj fields)) := by
  obtain ⟨hinfer, rfl⟩ := ofRecords_eq_ok_iff.mp htable
  obtain ⟨hobj, hbare, hlevel⟩ := (Tree.infer_eq_ok_iff hmerged).mp hinfer
  obtain ⟨c, hmem, hheld⟩ := mem_preorderAll.mp hc
  obtain ⟨parent, hparent⟩ := (hbare c hmem).exists_parent hheld
  have hpath : l.path = parent.child l.name := hparent.path_eq
  have hlookup := (Tree.WellFormed.of_infer hinfer).find?_of_mem_depthFirst hc
  rw [path_value, hpath, Tree.find?, Path.segments_child] at hlookup
  refine ⟨parent, hpath, fun r hr => ?_⟩
  obtain ⟨o, hpayload⟩ := isObject_iff.mp (hobj r hr)
  have ho : o ∈ rowObjects t.records := mem_rowObjects.mpr ⟨r, hr, hpayload⟩
  have hcell : (∃ j, r.valueAt l.path = some j ∧ j ≠ .null) ↔
      ∃ fields, r.valueAt parent = some (.obj fields) := by
    rw [hpath, Record.valueAt, Record.valueAt, Path.segments_child, hpayload]
    exact hlevel.exists_cellAt_iff hlookup hn ho
  refine ⟨hcell, ?_⟩
  rw [← not_exists, ← hcell, Record.projectCell]
  cases r.valueAt l.path <;> simp

/-- A nested column in rows with its group, with a null in place of the group, and without it. -/
theorem exists_valueAt_iff_of_not_nullable_nested :
    let batch : List Record :=
      [⟨some "1", .obj [("g", .obj [("h", .obj [("x", .int 1)])])]⟩,
        ⟨some "2", .obj [("g", .obj [("h", .null)])]⟩, ⟨some "3", .obj []⟩]
    let x : Label := ⟨"x", ⟨["g", "h", "x"]⟩, none⟩
    let table : Table :=
      ⟨⟨[topGroup "g" [topGroup "h" [topValue "x" ⟨.int, false⟩]]]⟩, batch⟩
    (∀ r ∈ batch, r.payload.Merged) ∧ ofRecords batch = .ok table ∧
      .value x ⟨.int, false⟩ ∈ table.tree.depthFirst ∧ (⟨.int, false⟩ : DataType).nullable = false ∧
      ∃ parent, x.path = parent.child x.name ∧ ∀ r ∈ batch,
        ((∃ j, r.valueAt x.path = some j ∧ j ≠ .null) ↔
          ∃ fields, r.valueAt parent = some (.obj fields)) ∧
        (r.projectCell (.value x ⟨.int, false⟩) = .null ↔
          ∀ fields, r.valueAt parent ≠ some (.obj fields)) := by
  intro batch x table
  have hmerged : ∀ r ∈ batch, r.payload.Merged := by
    simp [batch, Json.Merged, Json.MergedFields]
  have htable : ofRecords batch = .ok table := rfl
  have hx : .value x ⟨.int, false⟩ ∈ table.tree.depthFirst :=
    .tail _ (.tail _ (.head _))
  exact ⟨hmerged, htable, hx, rfl, exists_valueAt_iff_of_not_nullable hmerged htable hx rfl⟩

/-- A column is declared to accept no nulls, but the group around it is null in one row and missing
in another: these rows have no cell of the column, and selecting the columns of its type at any
depth gives a table in which a column of that type holds nulls. -/
theorem exists_not_nullable_without_cell :
    ∃ (batch : List Record) (t p : Table) (x : Label), ofRecords batch = .ok t ∧
      .value x ⟨.int, false⟩ ∈ t.tree.depthFirst ∧
      batch.map (·.valueAt x.path) = [some (.int 1), none, none] ∧
      (t.select (.anyDepth (.typeBelow ⟨.int, false⟩)) {}).outcome = .ok p ∧
      p.tree.columns = [topValue "x" ⟨.int, false⟩] ∧
      p.records.map (·.valueAt ⟨["x"]⟩) = [some (.int 1), some .null, some .null] := by
  let batch : List Record :=
    [⟨none, .obj [("g", .obj [("x", .int 1)])]⟩, ⟨none, .obj [("g", .null)]⟩, ⟨none, .obj []⟩]
  let x : Column := topValue "x" ⟨.int, false⟩
  let projected : List Record :=
    [⟨none, .obj [("x", .int 1)]⟩, ⟨none, .obj [("x", .null)]⟩, ⟨none, .obj [("x", .null)]⟩]
  refine ⟨batch, ⟨⟨[topGroup "g" [x]]⟩, batch⟩, ⟨⟨[x]⟩, projected⟩, ⟨"x", ⟨["g", "x"]⟩, none⟩, rfl,
    .tail _ (.head _), rfl, rfl, rfl, rfl⟩

end Table

end ColumnSelection
