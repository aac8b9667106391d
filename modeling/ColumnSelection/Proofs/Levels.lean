import ColumnSelection.Proofs.Projection
import ColumnSelection.Proofs.Referencing

/-!
# The levels of an inferred table

The levels of a table are its rows with its columns and, below each level, the objects under every
group with its children and the objects in the arrays under every frame with its schema. At each
level the columns are the keys of the objects in the order of their first appearance, and the kind
and the type of a column say exactly which values stand under its key.
-/
namespace ColumnSelection

open Column Json

/-- The type is the least one for the values under a key in the objects of a level, and accepts
nulls only where it has to. -/
structure DataType.IsTypeOf (key : String) (objects : List (List (String × Json)))
    (t : DataType) : Prop where
  above : ∀ j ∈ cellsUnder key objects, j.isNull = false →
    ∃ b, j.base? = some b ∧ b.isSubtypeOf t.base
  least : (∃ j ∈ cellsUnder key objects, j.isNull = false) → ∀ bound : BaseType,
    (∀ j ∈ cellsUnder key objects, ∀ b, j.base? = some b → b.isSubtypeOf bound) →
      t.base.isSubtypeOf bound
  any_of_isNull : (∀ j ∈ cellsUnder key objects, j.isNull = true) → t.base = .any
  nullable_iff : t.nullable = true ↔
    (∃ o ∈ objects, Entries.get? key o = none) ∨ (∃ j ∈ cellsUnder key objects, j.isNull = true) ∨
      ∀ j ∈ cellsUnder key objects, j.isNull = true

/-- The kind of the column, and the type of a value column, are those of the values under its name
in the objects of a level. -/
structure Column.IsExactFor (objects : List (List (String × Json))) (c : Column) : Prop where
  isGroup_iff : c.isGroup = true ↔ ∃ j ∈ cellsUnder c.name objects, j.isObject = true
  cells_of_isGroup : c.isGroup = true →
    ∀ j ∈ cellsUnder c.name objects, j.isNull = true ∨ j.isObject = true
  isFrame_iff : c.isFrame = true ↔ ∃ j ∈ cellsUnder c.name objects, j.isTable = true
  isTypeOf : c.isGroup = false → c.isFrame = false →
    ∃ t, c = .value c.label t ∧ t.IsTypeOf c.name objects

/-- Objects that stand at one place of the rows of a table, with the columns of that place. -/
inductive Table.Level (t : Table) : List (List (String × Json)) → List Column → Prop
  | rows : Level t (rowObjects t.records) t.tree.columns
  | group {objects cs l ds} : Level t objects cs → Column.group l ds ∈ cs →
      Level t ((cellsUnder l.name objects).filterMap fields?) ds
  | frame {objects cs l s} : Level t objects cs → Column.frame l s ∈ cs →
      Level t ((cellsUnder l.name objects).flatMap tableRows) s

section cellType

variable {key : String} {objects : List (List (String × Json))}

/-- Among plain values only nulls have no base type. -/
theorem filterMap_base?_eq_nil_iff {cells : List Json} (h : ∀ j ∈ cells, j.isPlain = true) :
    cells.filterMap base? = [] ↔ ∀ j ∈ cells, j.isNull = true :=
  ⟨Shape.isNull_of_filterMap_eq_nil h, Shape.filterMap_base?_eq_nil⟩

theorem isTypeOf_cellType (h : ∀ j ∈ cellsUnder key objects, j.isPlain = true) :
    (cellType (lacksKey key objects) (cellsUnder key objects)).IsTypeOf key objects := by
  generalize hcells : cellsUnder key objects = cells at h ⊢
  constructor <;> rw [hcells]
  · intro j hj hn
    obtain ⟨b, hb⟩ := base?_eq_some_of_isPlain (h j hj) hn
    have hmem : b ∈ cells.filterMap base? := List.mem_filterMap.mpr ⟨j, hj, hb⟩
    have hself := BaseType.isSubtypeOf_refl (BaseType.join (cells.filterMap base?))
    exact ⟨b, hb, (BaseType.join_isSubtypeOf_iff (List.ne_nil_of_mem hmem) _).mp hself b hmem⟩
  · rintro ⟨j, hj, hn⟩ bound hbound
    have hne : cells.filterMap base? ≠ [] := by
      intro hnil
      rw [(filterMap_base?_eq_nil_iff h).mp hnil j hj] at hn
      cases hn
    refine (BaseType.join_isSubtypeOf_iff hne bound).mpr fun b hb => ?_
    obtain ⟨j, hj, hb⟩ := List.mem_filterMap.mp hb
    exact hbound j hj b hb
  · intro hnull
    rw [cellType, Shape.filterMap_base?_eq_nil hnull]
    rfl
  · have hempty : (cells.filterMap base?).isEmpty = true ↔ ∀ j ∈ cells, j.isNull = true := by
      rw [List.isEmpty_iff, filterMap_base?_eq_nil_iff h]
    have hlacks : lacksKey key objects = true ↔ ∃ o ∈ objects, Entries.get? key o = none := by
      simp [lacksKey]
    rw [cellType, Bool.or_eq_true, Bool.or_eq_true, hempty, hlacks, List.any_eq_true, or_assoc]

end cellType

namespace Column

variable {objects : List (List (String × Json))} {cs : List Column}

theorem isObject_of_filterMap_ne_nil {cells : List Json} (h : cells.filterMap fields? ≠ []) :
    ∃ j ∈ cells, j.isObject = true := by
  obtain ⟨fields, hfields⟩ := List.exists_mem_of_ne_nil _ h
  obtain ⟨j, hj, he⟩ := List.mem_filterMap.mp hfields
  exact ⟨j, hj, isObject_iff.mpr ⟨fields, fields?_eq_some_iff.mp he⟩⟩

theorem isTable_eq_false_of_isObject {j : Json} (h : j.isObject = true) : j.isTable = false := by
  obtain ⟨fields, rfl⟩ := isObject_iff.mp h
  rfl

/-- A column that describes the values under its name tells exactly which values these are. -/
theorem Describes.isExactFor {c : Column}
    (h : c.Describes (lacksKey c.name objects) (cellsUnder c.name objects)) :
    c.IsExactFor objects := by
  cases c with
  | value l t =>
    obtain ⟨hplain, ht⟩ := h
    rw [name_value] at hplain ht
    subst ht
    have hobj : ¬ ∃ j ∈ cellsUnder l.name objects, j.isObject = true := by
      rintro ⟨j, hj, ho⟩
      rw [(isPlain_iff.mp (hplain j hj)).1] at ho
      cases ho
    have htable : ¬ ∃ j ∈ cellsUnder l.name objects, j.isTable = true := by
      rintro ⟨j, hj, ht⟩
      rw [(isPlain_iff.mp (hplain j hj)).2] at ht
      cases ht
    refine ⟨iff_of_false nofun hobj, nofun, iff_of_false nofun htable, fun _ _ => ?_⟩
    exact ⟨_, rfl, isTypeOf_cellType hplain⟩
  | group l ds =>
    obtain ⟨hcells, hne, -⟩ := describes_group.mp h
    have htable : ¬ ∃ j ∈ cellsUnder l.name objects, j.isTable = true := by
      rintro ⟨j, hj, ht⟩
      rcases hcells j hj with hnull | hobj
      · rw [isNull_iff.mp hnull] at ht
        cases ht
      · rw [isTable_eq_false_of_isObject hobj] at ht
        cases ht
    refine ⟨iff_of_true rfl (isObject_of_filterMap_ne_nil hne), fun _ => hcells, ?_, nofun⟩
    exact iff_of_false nofun htable
  | frame l s =>
    obtain ⟨hcells, hany, -⟩ := describes_frame.mp h
    have hobj : ¬ ∃ j ∈ cellsUnder l.name objects, j.isObject = true := by
      rintro ⟨j, hj, ho⟩
      rw [isObject_of_isFrameCell (hcells j hj)] at ho
      cases ho
    refine ⟨iff_of_false nofun hobj, nofun, iff_of_true rfl ?_, nofun⟩
    exact List.any_eq_true.mp hany

/-- A column held by one that stands beneath a parent stands beneath a parent itself. -/
theorem Bare.exists_parent {parent : Path} {c d : Column} (h : c.Bare parent)
    (hd : d ∈ c.preorder) : ∃ p, d.Bare p := by
  induction c using Column.induct generalizing parent with
  | value l t =>
    rw [preorder, List.mem_singleton] at hd
    exact ⟨parent, hd ▸ h⟩
  | frame l s =>
    rw [preorder, List.mem_singleton] at hd
    exact ⟨parent, hd ▸ h⟩
  | group l cs ih =>
    rcases mem_preorder_group.mp hd with rfl | ⟨c, hc, hd⟩
    · exact ⟨parent, h⟩
    · exact ih c hc ((bare_group.mp h).2 c hc) hd

/-- The path of a column leads down to a level of its own, at which exactly the objects reached from
above stand and the column is one of those that describe them. -/
theorem DescribesLevel.exists_level (h : DescribesLevel objects cs) {upper : List String}
    {n : String} {c : Column} (hc : Tree.lookup cs (upper ++ [n]) = some c) :
    ∃ below ds, DescribesLevel below ds ∧ c ∈ ds ∧ c.name = n ∧ ∀ fields, fields ∈ below ↔
      ∃ o ∈ objects, Record.cellAt (obj o) upper = some (obj fields) := by
  induction upper generalizing objects cs with
  | nil =>
    rw [List.nil_append, Tree.lookup_singleton] at hc
    refine ⟨objects, cs, h, List.mem_of_find?_eq_some hc, by simpa using List.find?_some hc, ?_⟩
    simp [Record.cellAt]
  | cons m upper ih =>
    rw [List.cons_append, Tree.lookup_cons (by simp), Option.bind_eq_some_iff] at hc
    obtain ⟨b, hb, hc⟩ := hc
    have hname : b.name = m := by simpa using List.find?_some hb
    have hdesc := h.each b (List.mem_of_find?_eq_some hb)
    rw [hname] at hdesc
    cases b with
    | value l t => cases Tree.isGroup_of_lookup hc
    | frame l s => cases Tree.isGroup_of_lookup hc
    | group l ds =>
      obtain ⟨hcells, -, hlevel⟩ := describes_group.mp hdesc
      obtain ⟨below, es, hbelow, hmem, hn, hreach⟩ := ih hlevel hc
      refine ⟨below, es, hbelow, hmem, hn, fun fields => (hreach fields).trans ?_⟩
      constructor
      · rintro ⟨inside, hinside, hfields⟩
        obtain ⟨j, hj, hobj⟩ := List.mem_filterMap.mp hinside
        obtain ⟨o, ho, hget⟩ := List.mem_filterMap.mp hj
        rw [fields?_eq_some_iff.mp hobj] at hget
        refine ⟨o, ho, ?_⟩
        rw [Record.cellAt_cons, Json.get?, hget]
        exact hfields
      · rintro ⟨o, ho, hfields⟩
        rw [Record.cellAt_cons, Option.bind_eq_some_iff] at hfields
        obtain ⟨j, hj, hfields⟩ := hfields
        have hjmem : j ∈ cellsUnder m objects := List.mem_filterMap.mpr ⟨o, ho, hj⟩
        -- Through a null the way leads nowhere, so the group holds an object here.
        rcases hcells j hjmem with hnull | hobj
        · obtain rfl := isNull_iff.mp hnull
          rcases eq_or_ne upper [] with rfl | hne
          · cases hfields
          · rw [Record.cellAt_null hne] at hfields
            cases hfields
        · obtain ⟨inside, rfl⟩ := isObject_iff.mp hobj
          exact ⟨inside, List.mem_filterMap.mpr ⟨_, hjmem, rfl⟩, hfields⟩

end Column

namespace Table

variable {t : Table} {objects : List (List (String × Json))} {cs : List Column}

/-- If the columns of the rows describe them, so do those of every level below. -/
theorem Level.describesLevel (h : t.Level objects cs)
    (hrows : DescribesLevel (rowObjects t.records) t.tree.columns) :
    DescribesLevel objects cs := by
  induction h with
  | rows => exact hrows
  | group _ hc ih => exact (describes_group.mp (ih.each _ hc)).2.2
  | frame _ hc ih => exact (describes_frame.mp (ih.each _ hc)).2.2

/-- The columns of every level of an inferred table are the keys of its objects, each once and in
the order of their first appearance, and each says exactly what stands under its key. -/
theorem isExactFor_of_level {batch : List Record} (hmerged : ∀ r ∈ batch, r.payload.Merged)
    (htable : ofRecords batch = .ok t) :
    t.records = batch ∧ (∀ r ∈ batch, r.payload.isObject = true) ∧
      ∀ objects cs, t.Level objects cs → cs.map name = levelKeys objects ∧ (cs.map name).Nodup ∧
        ∀ c ∈ cs, c.IsExactFor objects := by
  obtain ⟨hinfer, rfl⟩ := ofRecords_eq_ok_iff.mp htable
  obtain ⟨hobj, -, hrows⟩ := (Tree.infer_eq_ok_iff hmerged).mp hinfer
  refine ⟨rfl, hobj, fun objects cs hlevel => ?_⟩
  have h := hlevel.describesLevel hrows
  exact ⟨h.names, h.names ▸ nodup_levelKeys objects, fun c hc => (h.each c hc).isExactFor⟩

/-- A frame within a group, with a null among the rows of one array and an array without rows. -/
theorem isExactFor_of_level_nested :
    let a := topValue "a" ⟨.int, true⟩
    let b := topValue "b" ⟨.string, true⟩
    let batch : List Record :=
      [⟨some "1", .obj [("g", .obj [("x", .int 1),
        ("f", .arr [.obj [("a", .int 1)], .null, .obj [("b", .str "s")]])])]⟩,
        ⟨none, .obj [("v", .bool true), ("g", .null)]⟩,
        ⟨none, .obj [("g", .obj [("f", .arr [.int 2])]), ("v", .str "t")]⟩]
    let table : Table := ⟨⟨[topGroup "g" [topValue "x" ⟨.int, true⟩, topFrame "f" [a, b]],
      topValue "v" ⟨.any, true⟩]⟩, batch⟩
    let objects : List (List (String × Json)) := [[("a", .int 1)], [("b", .str "s")]]
    (∀ r ∈ batch, r.payload.Merged) ∧ ofRecords batch = .ok table ∧ table.Level objects [a, b] ∧
      [a, b].map name = levelKeys objects ∧ ∀ c ∈ [a, b], c.IsExactFor objects := by
  intro a b batch table objects
  have hmerged : ∀ r ∈ batch, r.payload.Merged := by
    simp [batch, Json.Merged, Json.MergedFields, Json.MergedItems]
  have htable : ofRecords batch = .ok table := rfl
  have hlevel : table.Level objects [a, b] :=
    .frame (l := ⟨"f", ⟨["g", "f"]⟩, none⟩) (.group (l := ⟨"g", ⟨["g"]⟩, none⟩) .rows (.head _))
      (.tail _ (.head _))
  obtain ⟨-, -, hexact⟩ := isExactFor_of_level hmerged htable
  obtain ⟨hnames, -, hcolumns⟩ := hexact objects [a, b] hlevel
  exact ⟨hmerged, htable, hlevel, hnames, hcolumns⟩

end Table

end ColumnSelection
