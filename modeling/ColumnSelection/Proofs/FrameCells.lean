import ColumnSelection.Proofs.Levels

/-!
# Cells of frames

The cells under a frame of an inferred table are nulls and arrays. Arrays with an object among their
items are tables: they hold nothing but objects and nulls. Arrays without one are let in whatever
they hold, before the first table as well as after it, so a frame may have cells that its schema
says nothing about.
-/
namespace ColumnSelection

open Column Json

namespace Json

/-- Whether the value is an array that holds nothing but objects and nulls. -/
def isRows : Json → Bool
  | .arr items => items.all fun j => j.isNull || j.isObject
  | _ => false

/-- A value stands in a frame if it is null, an array without objects, or one that holds nothing
beside objects and nulls. -/
theorem isFrameCell_iff {j : Json} : j.isFrameCell = true ↔
    j = .null ∨ (∃ items, j = .arr items) ∧ (j.isTable = true → j.isRows = true) := by
  cases j with
  | arr items =>
    simp only [isFrameCell, isTable, Json.items, isRows, Bool.or_eq_true, Bool.not_eq_true']
    cases items.any isObject <;> simp
  | _ => simp [isFrameCell]

/-- Beside tables, only arrays of nulls hold nothing but objects and nulls. -/
theorem isRows_arr_iff {items : List Json} (h : (arr items).isFrameCell = true) :
    (arr items).isRows = true ↔ (arr items).isTable = true ∨ ∀ i ∈ items, i = .null := by
  constructor
  · intro hrows
    by_cases htable : (arr items).isTable = true
    · exact .inl htable
    · refine .inr fun i hi => ?_
      have hnone : ∀ i ∈ items, ¬ i.isObject = true := by
        simpa [isTable, Json.items] using htable
      rcases Bool.or_eq_true_iff.mp (List.all_eq_true.mp hrows i hi) with hnull | hobj
      · exact isNull_iff.mp hnull
      · exact absurd hobj (hnone i hi)
  · rintro (htable | hnull)
    · rcases isFrameCell_iff.mp h with heq | ⟨-, hrows⟩
      · cases heq
      · exact hrows htable
    · refine List.all_eq_true.mpr fun i hi => ?_
      rw [hnull i hi]
      rfl

end Json

namespace Table

variable {batch : List Record} {t : Table}

/-- The values under the name of a column at its level are the cells of the column in the rows. -/
theorem exists_cellsUnder_eq_cells (hmerged : ∀ r ∈ batch, r.payload.Merged)
    (htable : ofRecords batch = .ok t) {c : Column} (hc : c ∈ t.tree.depthFirst) :
    ∃ objects, c.Describes (lacksKey c.name objects) (cellsUnder c.name objects) ∧
      ∀ j, j ∈ cellsUnder c.name objects ↔ ∃ r ∈ batch, r.valueAt c.path = some j := by
  obtain ⟨hinfer, rfl⟩ := ofRecords_eq_ok_iff.mp htable
  obtain ⟨hobj, hbare, hlevel⟩ := (Tree.infer_eq_ok_iff hmerged).mp hinfer
  obtain ⟨top, hmem, hheld⟩ := mem_preorderAll.mp hc
  obtain ⟨parent, hparent⟩ := (hbare top hmem).exists_parent hheld
  have hpath : c.path = parent.child c.name := hparent.path_eq
  have hlookup := (Tree.WellFormed.of_infer hinfer).find?_of_mem_depthFirst hc
  rw [hpath, Tree.find?, Path.segments_child] at hlookup
  obtain ⟨objects, ds, hobjects, hds, -, hreach⟩ := hlevel.exists_level hlookup
  have habove : ∀ o, o ∈ objects ↔ ∃ r ∈ t.records, r.valueAt parent = some (obj o) := by
    intro o
    rw [hreach]
    constructor
    · rintro ⟨fields, hfields, ho⟩
      obtain ⟨r, hr, hpayload⟩ := mem_rowObjects.mp hfields
      exact ⟨r, hr, by rw [Record.valueAt, hpayload, ho]⟩
    · rintro ⟨r, hr, ho⟩
      obtain ⟨fields, hpayload⟩ := isObject_iff.mp (hobj r hr)
      exact ⟨fields, mem_rowObjects.mpr ⟨r, hr, hpayload⟩, by rw [← hpayload]; exact ho⟩
  refine ⟨objects, hobjects.each c hds, fun j => ?_⟩
  rw [cellsUnder, List.mem_filterMap]
  constructor
  · rintro ⟨o, ho, hj⟩
    obtain ⟨r, hr, hrow⟩ := (habove o).mp ho
    refine ⟨r, hr, ?_⟩
    rw [hpath, Record.valueAt_child, hrow]
    exact hj
  · rintro ⟨r, hr, hj⟩
    rw [hpath, Record.valueAt_child, Option.bind_eq_some_iff] at hj
    obtain ⟨above, hrow, hj⟩ := hj
    cases above with
    | obj o => exact ⟨o, (habove o).mpr ⟨r, hr, hrow⟩, hj⟩
    | _ => cases hj

/-- The cells of a frame in the rows of an inferred table are nulls and arrays, and there is a table
among them. An array holds nothing but objects and nulls exactly if it is a table or has only
nulls. -/
theorem isRows_iff_of_frame (hmerged : ∀ r ∈ batch, r.payload.Merged)
    (htable : ofRecords batch = .ok t) {l : Label} {schema : List Column}
    (hc : Column.frame l schema ∈ t.tree.depthFirst) :
    (∀ r ∈ batch, ∀ j, r.valueAt l.path = some j → j = .null ∨ ∃ items, j = .arr items ∧
      (j.isRows = true ↔ j.isTable = true ∨ ∀ i ∈ items, i = .null)) ∧
      ∃ r ∈ batch, ∃ j, r.valueAt l.path = some j ∧ j.isTable = true ∧ j.isRows = true := by
  obtain ⟨objects, hdesc, hcells⟩ := exists_cellsUnder_eq_cells hmerged htable hc
  obtain ⟨hframe, hany, -⟩ := describes_frame.mp hdesc
  have hcell : ∀ r ∈ batch, ∀ j, r.valueAt l.path = some j → j.isFrameCell = true := by
    intro r hr j hj
    exact hframe j ((hcells j).mpr ⟨r, hr, hj⟩)
  constructor
  · intro r hr j hj
    rcases isFrameCell_iff.mp (hcell r hr j hj) with hnull | ⟨⟨items, rfl⟩, -⟩
    · exact .inl hnull
    · exact .inr ⟨items, rfl, isRows_arr_iff (hcell r hr _ hj)⟩
  · obtain ⟨j, hj, hjtable⟩ := List.any_eq_true.mp hany
    obtain ⟨r, hr, hvalue⟩ := (hcells j).mp hj
    refine ⟨r, hr, j, hvalue, hjtable, ?_⟩
    rcases isFrameCell_iff.mp (hcell r hr j hvalue) with rfl | ⟨-, hrows⟩
    · cases hjtable
    · exact hrows hjtable

/-- A frame within a group: its cells are a table with a null among its rows, an array of numbers,
null, and an array of nulls. -/
theorem isRows_iff_of_frame_nested :
    let row : Json → Record := fun cell => ⟨none, .obj [("g", .obj [("f", cell)])]⟩
    let batch : List Record := [row (.arr [.int 1]), row (.arr [.obj [("a", .int 1)], .null]),
      row .null, row (.arr [.null]), ⟨none, .obj [("g", .null)]⟩]
    let a := topValue "a" ⟨.int, false⟩
    let f : Label := ⟨"f", ⟨["g", "f"]⟩, none⟩
    let table : Table := ⟨⟨[topGroup "g" [topFrame "f" [a]]]⟩, batch⟩
    (∀ r ∈ batch, r.payload.Merged) ∧ ofRecords batch = .ok table ∧
      .frame f [a] ∈ table.tree.depthFirst ∧
      (∀ r ∈ batch, ∀ j, r.valueAt f.path = some j → j = .null ∨ ∃ items, j = .arr items ∧
        (j.isRows = true ↔ j.isTable = true ∨ ∀ i ∈ items, i = .null)) ∧
      ∃ r ∈ batch, ∃ j, r.valueAt f.path = some j ∧ j.isTable = true ∧ j.isRows = true := by
  intro row batch a f table
  have hmerged : ∀ r ∈ batch, r.payload.Merged := by
    simp [batch, row, Json.Merged, Json.MergedFields, Json.MergedItems]
  have htable : ofRecords batch = .ok table := rfl
  have hf : .frame f [a] ∈ table.tree.depthFirst := .tail _ (.head _)
  exact ⟨hmerged, htable, hf, isRows_iff_of_frame hmerged htable hf⟩

/-- An array of numbers stands under a frame in whichever order it and the table are met. In one
array the two are refused. -/
theorem exists_frame_cell_not_isRows :
    let row : Json → Record := fun cell => ⟨none, .obj [("f", cell)]⟩
    let rows : Record := row (.arr [.obj [("x", .int 1)]])
    let numbers : Record := row (.arr [.int 1])
    (∀ batch ∈ [[rows, numbers], [numbers, rows]], ∃ t, ofRecords batch = .ok t ∧
      topFrame "f" [topValue "x" ⟨.int, false⟩] ∈ t.tree.depthFirst ∧ numbers ∈ batch ∧
        numbers.valueAt (topFrame "f" []).path = some (.arr [.int 1]) ∧
          (Json.int 1).isNull = false ∧ (Json.int 1).isObject = false) ∧
      ofRecords [row (.arr [.obj [("x", .int 1)], .int 1])] =
        .error (.schema (.conflict "f" "mixed array")) := by
  intro row rows numbers
  refine ⟨?_, rfl⟩
  have hpath : numbers.valueAt (topFrame "f" []).path = some (.arr [.int 1]) := rfl
  rw [List.forall_mem_cons, List.forall_mem_singleton]
  constructor
  · exact ⟨⟨⟨[topFrame "f" [topValue "x" ⟨.int, false⟩]]⟩, [rows, numbers]⟩, rfl, .head _,
      .tail _ (.head _), hpath, rfl, rfl⟩
  · exact ⟨⟨⟨[topFrame "f" [topValue "x" ⟨.int, false⟩]]⟩, [numbers, rows]⟩, rfl, .head _,
      .head _, hpath, rfl, rfl⟩

end Table

end ColumnSelection
