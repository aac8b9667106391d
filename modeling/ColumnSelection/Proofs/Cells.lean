import ColumnSelection.Proofs.Observation

/-!
# The shape of the values under a key

The shape that observation leaves under a key is told by the values alone, whatever their order:
plain values give their least common type, objects a group, and arrays with objects a frame.
-/
namespace ColumnSelection

/-- The least base type above all of a list; of no types it is `any`. -/
def BaseType.join : List BaseType → BaseType
  | [] => .any
  | b :: bs => bs.foldl widen b

theorem BaseType.join_concat {bs : List BaseType} (h : bs ≠ []) (b : BaseType) :
    join (bs ++ [b]) = (join bs).widen b := by
  cases bs with
  | nil => exact absurd rfl h
  | cons a bs => simp [join]

theorem BaseType.foldl_widen_isSubtypeOf_iff (bs : List BaseType) (a c : BaseType) :
    (bs.foldl widen a).isSubtypeOf c ↔ a.isSubtypeOf c ∧ ∀ b ∈ bs, b.isSubtypeOf c := by
  induction bs generalizing a with
  | nil => simp
  | cons b bs ih =>
    rw [List.foldl_cons, ih, widen_isSubtypeOf_iff, List.forall_mem_cons, and_assoc]

/-- The join lies below exactly the upper bounds of the list. -/
theorem BaseType.join_isSubtypeOf_iff {bs : List BaseType} (h : bs ≠ []) (c : BaseType) :
    (join bs).isSubtypeOf c ↔ ∀ b ∈ bs, b.isSubtypeOf c := by
  cases bs with
  | nil => exact absurd rfl h
  | cons b bs => rw [join, foldl_widen_isSubtypeOf_iff, List.forall_mem_cons]

/-- Only lists give a list. -/
theorem BaseType.join_eq_list_iff {bs : List BaseType} (h : bs ≠ []) :
    join bs = .list ↔ ∀ b ∈ bs, b = .list := by
  have hwiden : ∀ a b : BaseType, a.widen b = .list ↔ a = .list ∧ b = .list := by
    intro a b
    cases a <;> cases b <;> decide
  induction bs using List.reverseRecOn with
  | nil => exact absurd rfl h
  | append_singleton bs b ih =>
    rcases eq_or_ne bs [] with rfl | hbs
    · simp [join]
    · simp [join_concat hbs, hwiden, ih hbs, or_imp, forall_and]

namespace Json

def isNull : Json → Bool
  | .null => true
  | _ => false

/-- The items of an array. -/
def items : Json → List Json
  | .arr items => items
  | _ => []

/-- Whether the value is an array with an object among its items. -/
def isTable (j : Json) : Bool :=
  j.items.any isObject

/-- Whether the value is neither an object nor an array with objects. -/
def isPlain (j : Json) : Bool :=
  !j.isObject && !j.isTable

/-- The base type of a plain value; null has none. -/
def base? : Json → Option BaseType
  | .null | .obj _ => none
  | .bool _ => some .bool
  | .int _ => some .int
  | .float _ => some .float
  | .str _ => some .string
  | .arr _ => some .list

/-- Whether the value can stand in a frame: null, or an array that has nothing beside objects and
nulls if it has objects at all. -/
def isFrameCell : Json → Bool
  | .null => true
  | .arr items => !items.any isObject || items.all fun j => j.isNull || j.isObject
  | _ => false

/-- The objects among the items of an array. -/
def tableRows (j : Json) : List (List (String × Json)) :=
  j.items.filterMap fields?

section constructors

variable (fields : List (String × Json))

@[simp] theorem isNull_null : isNull .null = true := rfl
@[simp] theorem isNull_obj : (obj fields).isNull = false := rfl

@[simp] theorem isObject_null : isObject .null = false := rfl
@[simp] theorem isObject_obj : (obj fields).isObject = true := rfl

@[simp] theorem isPlain_null : isPlain .null = true := rfl
@[simp] theorem isPlain_obj : (obj fields).isPlain = false := rfl

@[simp] theorem isTable_null : isTable .null = false := rfl

@[simp] theorem isFrameCell_null : isFrameCell .null = true := rfl
@[simp] theorem isFrameCell_obj : (obj fields).isFrameCell = false := rfl

@[simp] theorem base?_null : base? .null = none := rfl

@[simp] theorem fields?_null : fields? .null = none := rfl
@[simp] theorem fields?_obj : (obj fields).fields? = some fields := rfl

@[simp] theorem tableRows_null : tableRows .null = [] := rfl

end constructors

theorem base?_eq_some_of_isPlain {j : Json} (h : j.isPlain = true) (hn : j.isNull = false) :
    ∃ b, j.base? = some b := by
  cases j with
  | null => cases hn
  | obj fields => cases h
  | bool b => exact ⟨_, rfl⟩
  | int n => exact ⟨_, rfl⟩
  | float x => exact ⟨_, rfl⟩
  | str s => exact ⟨_, rfl⟩
  | arr items => exact ⟨_, rfl⟩

theorem isNull_iff {j : Json} : j.isNull = true ↔ j = .null := by
  cases j <;> simp [isNull]

theorem isObject_iff {j : Json} : j.isObject = true ↔ ∃ fields, j = obj fields := by
  cases j <;> simp [isObject]

theorem fields?_eq_some_iff {j : Json} {fields : List (String × Json)} :
    j.fields? = some fields ↔ j = obj fields := by
  cases j <;> simp [fields?]

theorem isPlain_iff {j : Json} : j.isPlain = true ↔ j.isObject = false ∧ j.isTable = false := by
  rw [isPlain, Bool.and_eq_true, Bool.not_eq_true', Bool.not_eq_true']

theorem any_isObject_of_isPlain {items : List Json} (h : (arr items).isPlain = true) :
    items.any isObject = false :=
  (isPlain_iff.mp h).2

theorem isPlain_of_isNull {j : Json} (h : j.isNull = true) : j.isPlain = true := by
  cases j <;> first | rfl | cases h

/-- Among plain values those of a frame are the nulls and the lists. -/
theorem isFrameCell_iff_of_isPlain {j : Json} (h : j.isPlain = true) :
    j.isFrameCell = true ↔ ∀ b, j.base? = some b → b = .list := by
  cases j with
  | arr items => simp [isFrameCell, base?, any_isObject_of_isPlain h]
  | obj fields => cases h
  | _ => simp [isFrameCell, base?]

theorem isObject_of_isFrameCell {j : Json} (h : j.isFrameCell = true) : j.isObject = false := by
  cases j <;> first | rfl | cases h

theorem isNull_eq_false_of_base? {j : Json} {b : BaseType} (h : j.base? = some b) :
    j.isNull = false := by
  cases j <;> first | rfl | cases h

theorem tableRows_of_isPlain {j : Json} (h : j.isPlain = true) : j.tableRows = [] := by
  have ht := (isPlain_iff.mp h).2
  rw [tableRows, List.filterMap_eq_nil_iff]
  intro i hi
  rw [isTable, List.any_eq_false] at ht
  cases i with
  | obj fields => exact absurd rfl (ht _ hi)
  | _ => rfl

end Json

open Json

namespace Shape

/-- Whether the shape is that of a level of objects. -/
def isLevel : Shape → Bool
  | .group .. | .frame .. => true
  | _ => false

section plain

variable {j : Json} (h : j.isPlain = true)
include h

/-- A typed value makes a scalar where there is no level yet. -/
theorem observe_typed {b : BaseType} (hb : j.base? = some b) (path : String) {shape : Shape}
    (hs : shape.isLevel = false) : observe path shape j = withScalar path ⟨b, false⟩ shape := by
  cases j with
  | null => cases hb
  | obj fields => cases h
  | arr items =>
    cases hb
    cases shape with
    | group seen layout => cases hs
    | frame seen layout => cases hs
    | _ => simp [observe, any_isObject_of_isPlain h]
  | _ => cases hb; rfl

/-- The only plain value that a group takes is null. -/
theorem observe_group_plain {path : String} {seen : Nat} {layout : Layout} {shape' : Shape} :
    observe path (.group seen layout) j = .ok shape' ↔ j = .null ∧ shape' = .group seen layout := by
  cases j with
  | null => simp [observe, withNull, eq_comm]
  | obj fields => cases h
  | arr items => simp [observe, any_isObject_of_isPlain h, withScalar]
  | _ => simp [observe, withScalar]

/-- A frame takes nulls and arrays. -/
theorem observe_frame_plain {path : String} {seen : Nat} {layout : Layout} {shape' : Shape} :
    observe path (.frame seen layout) j = .ok shape' ↔
      j.isFrameCell = true ∧ shape' = .frame seen layout := by
  cases j with
  | null => simp [observe, withNull, eq_comm]
  | obj fields => cases h
  | arr items => simp [observe, any_isObject_of_isPlain h, isFrameCell, eq_comm]
  | _ => simp [observe, withScalar, isFrameCell]

end plain

theorem observe_obj (path : String) (shape : Shape) (fields : List (String × Json))
    (shape' : Shape) :
    observe path shape (.obj fields) = .ok shape' ↔
      ∃ seen layout layout', shape.asGroup? = some (seen, layout) ∧
        observeFields path layout fields = .ok layout' ∧ shape' = .group (seen + 1) layout' := by
  rw [observe]
  cases shape.asGroup? with
  | none => simp
  | some level =>
    obtain ⟨seen, layout⟩ := level
    simp only [bind_eq_ok, Option.some.injEq, Prod.mk.injEq]
    constructor
    · rintro ⟨layout', h, he⟩
      cases he
      exact ⟨seen, layout, layout', ⟨rfl, rfl⟩, h, rfl⟩
    · rintro ⟨_, _, layout', ⟨rfl, rfl⟩, h, rfl⟩
      exact ⟨layout', h, rfl⟩

/-- The objects of an array join the level of the frame; what is neither object nor null is a
conflict. -/
theorem observeItems_eq_ok {path : String} {seen : Nat} {layout : Layout} {items : List Json}
    {level : Nat × Layout} :
    observeItems path seen layout items = .ok level ↔
      (∀ j ∈ items, j.isNull = true ∨ j.isObject = true) ∧
        level.1 = seen + (items.filterMap fields?).length ∧
          observeObjects path layout (items.filterMap fields?) = .ok level.2 := by
  induction items generalizing seen layout with
  | nil =>
    obtain ⟨n, l⟩ := level
    rw [observeItems]
    constructor
    · intro h
      cases h
      exact ⟨by simp, rfl, rfl⟩
    · rintro ⟨-, hn, hl⟩
      cases hn
      cases hl
      rfl
  | cons j rest ih =>
    cases j with
    | obj fields =>
      have hrows : (Json.obj fields :: rest).filterMap fields? =
          fields :: rest.filterMap fields? := rfl
      rw [observeItems, hrows, observeObjects_cons]
      simp only [bind_eq_ok, ih, List.length_cons, List.forall_mem_cons, isObject, or_true,
        true_and]
      constructor
      · rintro ⟨layout', h, hitems, hseen, hrest⟩
        exact ⟨hitems, by omega, layout', h, hrest⟩
      · rintro ⟨hitems, hseen, layout', h, hrest⟩
        exact ⟨layout', h, hitems, by omega, hrest⟩
    | null =>
      rw [observeItems, List.filterMap_cons_none rfl, ih, List.forall_mem_cons]
      simp [isNull]
    | bool b => simp [observeItems, isNull, isObject]
    | int n => simp [observeItems, isNull, isObject]
    | float x => simp [observeItems, isNull, isObject]
    | str s => simp [observeItems, isNull, isObject]
    | arr items => simp [observeItems, isNull, isObject]

theorem observe_arr_of_any {items : List Json} (h : items.any isObject = true) (path : String)
    (shape : Shape) :
    observe path shape (.arr items) =
      match shape.asFrame? with
      | none => .error (.schema (.conflict path "array of objects"))
      | some (seen, layout) => do
        let (seen, layout) ← observeItems path seen layout items
        return .frame seen layout := by
  cases shape <;> exact if_pos h

theorem observe_table {j : Json} (h : j.isTable = true) (path : String) (shape shape' : Shape) :
    observe path shape j = .ok shape' ↔
      ∃ seen layout layout', shape.asFrame? = some (seen, layout) ∧ j.isFrameCell = true ∧
        observeObjects path layout j.tableRows = .ok layout' ∧
          shape' = .frame (seen + j.tableRows.length) layout' := by
  cases j with
  | arr items =>
    have hi : items.any isObject = true := h
    rw [observe_arr_of_any hi]
    cases shape.asFrame? with
    | none => simp
    | some level =>
      obtain ⟨seen, layout⟩ := level
      simp only [bind_eq_ok, observeItems_eq_ok, Option.some.injEq, Prod.mk.injEq, isFrameCell, hi,
        Bool.not_true, Bool.false_or, List.all_eq_true, Bool.or_eq_true, tableRows, Json.items]
      constructor
      · rintro ⟨⟨n, l⟩, ⟨hitems, hn, hl⟩, he⟩
        cases he
        exact ⟨seen, layout, l, ⟨rfl, rfl⟩, hitems, hl, by rw [← hn]⟩
      · rintro ⟨_, _, layout', ⟨rfl, rfl⟩, hitems, hl, rfl⟩
        exact ⟨⟨_, layout'⟩, ⟨hitems, rfl, hl⟩, rfl⟩
  | _ => cases h

/-- What the shape under a key says about the values that were seen there. -/
def Fits (path : String) (cells : List Json) : Shape → Prop
  | .unseen => cells = []
  | .onlyNull => cells ≠ [] ∧ ∀ j ∈ cells, j.isNull = true
  | .scalar t =>
    (∀ j ∈ cells, j.isPlain = true) ∧ cells.filterMap base? ≠ [] ∧
      t = ⟨BaseType.join (cells.filterMap base?), cells.any isNull⟩
  | .group seen layout =>
    (∀ j ∈ cells, j.isNull = true ∨ j.isObject = true) ∧ cells.filterMap fields? ≠ [] ∧
      seen = (cells.filterMap fields?).length ∧
        observeObjects path [] (cells.filterMap fields?) = .ok layout
  | .frame seen layout =>
    (∀ j ∈ cells, j.isFrameCell = true) ∧ cells.any isTable = true ∧
      seen = (cells.flatMap tableRows).length ∧
        observeObjects path [] (cells.flatMap tableRows) = .ok layout

variable {path : String} {cells : List Json}

/-- The shape of plain values. -/
def ofPlain (cells : List Json) : Shape :=
  if cells = [] then .unseen
  else if cells.filterMap base? = [] then .onlyNull
  else .scalar ⟨BaseType.join (cells.filterMap base?), cells.any isNull⟩

theorem isNull_of_filterMap_eq_nil (h : ∀ j ∈ cells, j.isPlain = true)
    (hbase : cells.filterMap base? = []) : ∀ j ∈ cells, j.isNull = true := by
  intro j hj
  by_contra hn
  obtain ⟨b, hb⟩ := base?_eq_some_of_isPlain (h j hj) (Bool.not_eq_true _ ▸ hn)
  rw [List.filterMap_eq_nil_iff.mp hbase j hj] at hb
  cases hb

theorem filterMap_fields?_eq_nil (h : ∀ j ∈ cells, j.isPlain = true) :
    cells.filterMap fields? = [] := by
  refine List.filterMap_eq_nil_iff.mpr fun j hj => ?_
  have hj := h j hj
  cases j <;> first | rfl | cases hj

theorem flatMap_tableRows_eq_nil (h : ∀ j ∈ cells, j.isPlain = true) :
    cells.flatMap tableRows = [] :=
  List.flatMap_eq_nil_iff.mpr fun j hj => tableRows_of_isPlain (h j hj)

theorem fits_ofPlain (h : ∀ j ∈ cells, j.isPlain = true) : (ofPlain cells).Fits path cells := by
  rw [ofPlain]
  split_ifs with hnil hbase
  · exact hnil
  · exact ⟨hnil, isNull_of_filterMap_eq_nil h hbase⟩
  · exact ⟨h, hbase, rfl⟩

theorem filterMap_base?_eq_nil (h : ∀ j ∈ cells, j.isNull = true) :
    cells.filterMap base? = [] := by
  refine List.filterMap_eq_nil_iff.mpr fun j hj => ?_
  have hj := h j hj
  cases j <;> first | rfl | cases hj

theorem ofPlain_of_isNull (h : ∀ j ∈ cells, j.isNull = true) :
    ofPlain cells = if cells = [] then .unseen else .onlyNull := by
  rw [ofPlain, if_pos (filterMap_base?_eq_nil h)]

/-- Without a level, the values are plain and leave their shape. -/
theorem eq_ofPlain_of_fits {shape : Shape} (h : Fits path cells shape)
    (hs : shape.isLevel = false) : (∀ j ∈ cells, j.isPlain = true) ∧ shape = ofPlain cells := by
  cases shape with
  | unseen =>
    obtain rfl : cells = [] := h
    exact ⟨by simp, rfl⟩
  | onlyNull =>
    refine ⟨fun j hj => isPlain_of_isNull (h.2 j hj), ?_⟩
    rw [ofPlain_of_isNull h.2, if_neg h.1]
  | scalar t =>
    obtain ⟨hall, hne, rfl⟩ := h
    have hcells : cells ≠ [] := by rintro rfl; exact hne rfl
    exact ⟨hall, by rw [ofPlain, if_neg hcells, if_neg hne]⟩
  | group seen layout => cases hs
  | frame seen layout => cases hs

@[simp] theorem isLevel_ofPlain : (ofPlain cells).isLevel = false := by
  rw [ofPlain]
  split_ifs <;> rfl

theorem withNull_ofPlain (cells : List Json) :
    (ofPlain cells).withNull = ofPlain (cells ++ [null]) := by
  have hbases : (cells ++ [null]).filterMap base? = cells.filterMap base? := by simp
  rw [ofPlain, ofPlain, if_neg (c := cells ++ [null] = []) (by simp), hbases]
  split_ifs with hnil hbase hbase
  · rfl
  · exact absurd (hnil ▸ rfl) hbase
  · rfl
  · simp [withNull, DataType.orNull]

theorem withScalar_ofPlain (h : ∀ j ∈ cells, j.isPlain = true) {j : Json} {b : BaseType}
    (hb : j.base? = some b) :
    withScalar path ⟨b, false⟩ (ofPlain cells) = .ok (ofPlain (cells ++ [j])) := by
  have hbases : (cells ++ [j]).filterMap base? = cells.filterMap base? ++ [b] := by simp [hb]
  have hall : ofPlain (cells ++ [j]) =
      .scalar ⟨BaseType.join (cells.filterMap base? ++ [b]), cells.any isNull⟩ := by
    rw [ofPlain, if_neg (by simp), hbases, if_neg (by simp)]
    simp [isNull_eq_false_of_base? hb]
  rw [hall, ofPlain]
  split_ifs with hnil hbase
  · simp [hnil, withScalar, BaseType.join]
  · obtain ⟨i, hi⟩ := List.exists_mem_of_ne_nil _ hnil
    have hnull : cells.any isNull = true :=
      List.any_eq_true.mpr ⟨i, hi, isNull_of_filterMap_eq_nil h hbase i hi⟩
    simp [hbase, hnull, withScalar, DataType.orNull, BaseType.join]
  · simp [withScalar, DataType.widen, BaseType.join_concat hbase]

/-- One more plain value leads from the shape of plain values to that of all of them. -/
theorem observe_ofPlain (h : ∀ j ∈ cells, j.isPlain = true) {j : Json} (hj : j.isPlain = true) :
    observe path (ofPlain cells) j = .ok (ofPlain (cells ++ [j])) := by
  cases hb : j.base? with
  | none =>
    cases j with
    | null => rw [observe, withNull_ofPlain]
    | obj fields => cases hj
    | _ => cases hb
  | some b => rw [observe_typed hj hb path isLevel_ofPlain, withScalar_ofPlain h hb]

/-- Nulls leave the level of a group open. -/
theorem asGroup?_ofPlain_iff (h : ∀ j ∈ cells, j.isPlain = true) {level : Nat × Layout} :
    (ofPlain cells).asGroup? = some level ↔ level = (0, []) ∧ ∀ j ∈ cells, j.isNull = true := by
  have hnull : (∀ j ∈ cells, j.isNull = true) ↔ cells.filterMap base? = [] :=
    ⟨filterMap_base?_eq_nil, isNull_of_filterMap_eq_nil h⟩
  rw [hnull, ofPlain]
  split_ifs with hnil hbase
  · simp [asGroup?, hnil, eq_comm]
  · simp [asGroup?, hbase, eq_comm]
  · simp [asGroup?, hbase]

/-- Nulls and arrays without objects leave the level of a frame open. -/
theorem asFrame?_ofPlain_iff (h : ∀ j ∈ cells, j.isPlain = true) {level : Nat × Layout} :
    (ofPlain cells).asFrame? = some level ↔
      level = (0, []) ∧ ∀ j ∈ cells, j.isFrameCell = true := by
  have hlist : (∀ j ∈ cells, j.isFrameCell = true) ↔ ∀ b ∈ cells.filterMap base?, b = .list := by
    simp only [List.mem_filterMap]
    constructor
    · rintro hcells b ⟨j, hj, hb⟩
      exact (isFrameCell_iff_of_isPlain (h j hj)).mp (hcells j hj) b hb
    · exact fun hb j hj => (isFrameCell_iff_of_isPlain (h j hj)).mpr fun b hj' => hb b ⟨j, hj, hj'⟩
  rw [hlist, ofPlain]
  split_ifs with hnil hbase
  · simp [asFrame?, hnil, eq_comm]
  · simp [asFrame?, hbase, eq_comm]
  · rw [asFrame?, ← BaseType.join_eq_list_iff hbase]
    have hlevel : some (0, []) = some level ↔ level = (0, []) := by simp [eq_comm]
    split_ifs with hjoin
    · rw [hlevel, and_iff_left hjoin]
    · simp [hjoin]

/-- The level that one more object joins holds the objects seen so far. -/
theorem exists_fits_asGroup?_iff {seen : Nat} {layout : Layout} :
    (∃ shape, Fits path cells shape ∧ shape.asGroup? = some (seen, layout)) ↔
      (∀ j ∈ cells, j.isNull = true ∨ j.isObject = true) ∧
        seen = (cells.filterMap fields?).length ∧
          observeObjects path [] (cells.filterMap fields?) = .ok layout := by
  constructor
  · rintro ⟨shape, hfits, hlevel⟩
    cases hs : shape.isLevel with
    | false =>
      obtain ⟨hplain, rfl⟩ := eq_ofPlain_of_fits hfits hs
      obtain ⟨he, hnull⟩ := (asGroup?_ofPlain_iff hplain).mp hlevel
      cases he
      rw [filterMap_fields?_eq_nil hplain]
      exact ⟨fun j hj => .inl (hnull j hj), rfl, rfl⟩
    | true =>
      cases shape with
      | group seen layout =>
        cases hlevel
        exact ⟨hfits.1, hfits.2.2⟩
      | frame seen layout => cases hlevel
      | _ => cases hs
  · rintro ⟨hcells, rfl, hlayout⟩
    by_cases hrows : cells.filterMap fields? = []
    · have hnull : ∀ j ∈ cells, j.isNull = true := by
        intro j hj
        refine (hcells j hj).resolve_right fun hobj => ?_
        have hnone := List.filterMap_eq_nil_iff.mp hrows j hj
        cases j with
        | obj fields => cases hnone
        | _ => cases hobj
      have hplain := fun j hj => isPlain_of_isNull (hnull j hj)
      rw [hrows] at hlayout ⊢
      cases hlayout
      exact ⟨ofPlain cells, fits_ofPlain hplain, (asGroup?_ofPlain_iff hplain).mpr ⟨rfl, hnull⟩⟩
    · exact ⟨.group _ layout, ⟨hcells, hrows, rfl, hlayout⟩, rfl⟩

/-- The level that the objects of one more array join holds the objects of the arrays seen so
far. -/
theorem exists_fits_asFrame?_iff {seen : Nat} {layout : Layout} :
    (∃ shape, Fits path cells shape ∧ shape.asFrame? = some (seen, layout)) ↔
      (∀ j ∈ cells, j.isFrameCell = true) ∧ seen = (cells.flatMap tableRows).length ∧
        observeObjects path [] (cells.flatMap tableRows) = .ok layout := by
  constructor
  · rintro ⟨shape, hfits, hlevel⟩
    cases hs : shape.isLevel with
    | false =>
      obtain ⟨hplain, rfl⟩ := eq_ofPlain_of_fits hfits hs
      obtain ⟨he, hcells⟩ := (asFrame?_ofPlain_iff hplain).mp hlevel
      cases he
      rw [flatMap_tableRows_eq_nil hplain]
      exact ⟨hcells, rfl, rfl⟩
    | true =>
      cases shape with
      | frame seen layout =>
        cases hlevel
        exact ⟨hfits.1, hfits.2.2⟩
      | group seen layout => cases hlevel
      | _ => cases hs
  · rintro ⟨hcells, rfl, hlayout⟩
    by_cases hrows : cells.any isTable = true
    · exact ⟨.frame _ layout, ⟨hcells, hrows, rfl, hlayout⟩, rfl⟩
    · have hplain : ∀ j ∈ cells, j.isPlain = true := by
        intro j hj
        have htable : j.isTable = false := by
          rw [List.any_eq_true, not_exists] at hrows
          simpa [hj] using hrows j
        exact isPlain_iff.mpr ⟨isObject_of_isFrameCell (hcells j hj), htable⟩
      rw [flatMap_tableRows_eq_nil hplain] at hlayout ⊢
      cases hlayout
      exact ⟨ofPlain cells, fits_ofPlain hplain, (asFrame?_ofPlain_iff hplain).mpr ⟨rfl, hcells⟩⟩

theorem fits_concat_obj {fields : List (String × Json)} {shape' : Shape} :
    Fits path (cells ++ [.obj fields]) shape' ↔
      ∃ shape, Fits path cells shape ∧ observe path shape (.obj fields) = .ok shape' := by
  have hlevel : (∃ shape, Fits path cells shape ∧ observe path shape (.obj fields) = .ok shape') ↔
      ∃ seen layout layout',
        (∃ shape, Fits path cells shape ∧ shape.asGroup? = some (seen, layout)) ∧
          observeFields path layout fields = .ok layout' ∧ shape' = .group (seen + 1) layout' := by
    simp only [observe_obj]
    tauto
  rw [hlevel]
  simp only [exists_fits_asGroup?_iff]
  have hfields : (cells ++ [obj fields]).filterMap fields? =
      cells.filterMap fields? ++ [fields] := by
    simp
  constructor
  · intro h
    cases shape' with
    | unseen => simp [Fits] at h
    | onlyNull => cases h.2 (.obj fields) (by simp)
    | scalar t => cases h.1 (.obj fields) (by simp)
    | frame seen layout => cases h.1 (.obj fields) (by simp)
    | group seen layout' =>
      rw [Fits, hfields, observeObjects_append, bind_eq_ok] at h
      obtain ⟨hall, -, rfl, layout, hlayout, h⟩ := h
      rw [observeObjects_cons, bind_eq_ok] at h
      obtain ⟨_, h, he⟩ := h
      cases he
      refine ⟨_, layout, layout', ⟨fun j hj => ?_, rfl, hlayout⟩, h, ?_⟩
      · exact hall j (List.mem_append_left _ hj)
      · simp
  · rintro ⟨_, layout, layout', ⟨hall, rfl, hlayout⟩, h, rfl⟩
    refine ⟨by simpa [or_imp, forall_and] using hall, by simp, by simp, ?_⟩
    rw [hfields, observeObjects_append, hlayout]
    exact bind_eq_ok.mpr ⟨layout, rfl, bind_eq_ok.mpr ⟨layout', h, rfl⟩⟩

theorem fits_concat_table {j : Json} (hj : j.isTable = true) {shape' : Shape} :
    Fits path (cells ++ [j]) shape' ↔
      ∃ shape, Fits path cells shape ∧ observe path shape j = .ok shape' := by
  have hlevel : (∃ shape, Fits path cells shape ∧ observe path shape j = .ok shape') ↔
      ∃ seen layout layout',
        (∃ shape, Fits path cells shape ∧ shape.asFrame? = some (seen, layout)) ∧
          j.isFrameCell = true ∧ observeObjects path layout j.tableRows = .ok layout' ∧
            shape' = .frame (seen + j.tableRows.length) layout' := by
    simp only [observe_table hj]
    tauto
  rw [hlevel]
  simp only [exists_fits_asFrame?_iff]
  have hrows : (cells ++ [j]).flatMap tableRows = cells.flatMap tableRows ++ j.tableRows := by
    simp
  have hmem : j ∈ cells ++ [j] := by simp
  constructor
  · intro h
    cases shape' with
    | unseen => simp [Fits] at h
    | onlyNull =>
      have hnull := h.2 j hmem
      cases j <;> first | cases hj | cases hnull
    | scalar t =>
      have hplain := h.1 j hmem
      rw [isPlain, hj] at hplain
      simp at hplain
    | group seen layout =>
      have hobj := h.1 j hmem
      cases j <;> first | cases hj | simp [isNull, isObject] at hobj
    | frame seen layout' =>
      obtain ⟨hall, -, rfl, h⟩ := h
      rw [hrows, observeObjects_append, bind_eq_ok] at h
      obtain ⟨layout, hlayout, h⟩ := h
      refine ⟨_, layout, layout', ⟨fun i hi => hall i (List.mem_append_left _ hi), rfl, hlayout⟩,
        hall j hmem, h, ?_⟩
      rw [hrows, List.length_append]
  · rintro ⟨_, layout, layout', ⟨hall, rfl, hlayout⟩, hcell, h, rfl⟩
    refine ⟨by simpa [or_imp, forall_and, hcell] using hall, by simp [hj], ?_, ?_⟩
    · rw [hrows, List.length_append]
    · rw [hrows, observeObjects_append, hlayout]
      exact bind_eq_ok.mpr ⟨layout, rfl, h⟩

theorem fits_group_concat_null {seen : Nat} {layout : Layout} :
    Fits path (cells ++ [null]) (.group seen layout) ↔ Fits path cells (.group seen layout) := by
  have hrows : (cells ++ [null]).filterMap fields? = cells.filterMap fields? := by simp
  rw [Fits, Fits, hrows]
  simp [or_imp, forall_and]

theorem fits_frame_concat_plain {j : Json} (hj : j.isPlain = true) {seen : Nat}
    {layout : Layout} : Fits path (cells ++ [j]) (.frame seen layout) ↔
      j.isFrameCell = true ∧ Fits path cells (.frame seen layout) := by
  have hrows : (cells ++ [j]).flatMap tableRows = cells.flatMap tableRows := by
    simp [tableRows_of_isPlain hj]
  rw [Fits, Fits, hrows]
  simp [or_imp, forall_and, (isPlain_iff.mp hj).2]
  tauto

theorem fits_concat_plain {j : Json} (hj : j.isPlain = true) {shape' : Shape} :
    Fits path (cells ++ [j]) shape' ↔
      ∃ shape, Fits path cells shape ∧ observe path shape j = .ok shape' := by
  constructor
  · intro h
    cases hs : shape'.isLevel with
    | false =>
      obtain ⟨hall, rfl⟩ := eq_ofPlain_of_fits h hs
      have hcells : ∀ i ∈ cells, i.isPlain = true := fun i hi => hall i (List.mem_append_left _ hi)
      exact ⟨ofPlain cells, fits_ofPlain hcells, observe_ofPlain hcells hj⟩
    | true =>
      cases shape' with
      | group seen layout =>
        have hnull := (h.1 j (by simp)).resolve_right (by simp [(isPlain_iff.mp hj).1])
        obtain rfl := isNull_iff.mp hnull
        exact ⟨_, fits_group_concat_null.mp h, (observe_group_plain hj).mpr ⟨rfl, rfl⟩⟩
      | frame seen layout =>
        obtain ⟨hcell, h⟩ := (fits_frame_concat_plain hj).mp h
        exact ⟨_, h, (observe_frame_plain hj).mpr ⟨hcell, rfl⟩⟩
      | _ => cases hs
  · rintro ⟨shape, h, ho⟩
    cases hs : shape.isLevel with
    | false =>
      obtain ⟨hall, rfl⟩ := eq_ofPlain_of_fits h hs
      rw [observe_ofPlain hall hj] at ho
      cases ho
      exact fits_ofPlain (by simpa [or_imp, forall_and, hj] using hall)
    | true =>
      cases shape with
      | group seen layout =>
        obtain ⟨rfl, rfl⟩ := (observe_group_plain hj).mp ho
        exact fits_group_concat_null.mpr h
      | frame seen layout =>
        obtain ⟨hcell, rfl⟩ := (observe_frame_plain hj).mp ho
        exact (fits_frame_concat_plain hj).mpr ⟨hcell, h⟩
      | _ => cases hs

theorem fits_concat (j : Json) {shape' : Shape} :
    Fits path (cells ++ [j]) shape' ↔
      ∃ shape, Fits path cells shape ∧ observe path shape j = .ok shape' := by
  cases hobj : j.isObject with
  | true =>
    cases j with
    | obj fields => exact fits_concat_obj
    | _ => cases hobj
  | false =>
    cases htable : j.isTable with
    | true => exact fits_concat_table htable
    | false => exact fits_concat_plain (isPlain_iff.mpr ⟨hobj, htable⟩)

/-- The shape left under a key is the one that fits all values under it. -/
theorem observeCells_eq_ok_iff {shape : Shape} :
    observeCells path .unseen cells = .ok shape ↔ Fits path cells shape := by
  induction cells using List.reverseRecOn generalizing shape with
  | nil =>
    rw [observeCells_nil]
    constructor
    · intro h
      cases h
      rfl
    · intro h
      cases shape with
      | unseen => rfl
      | onlyNull => exact absurd rfl h.1
      | scalar t => exact absurd rfl h.2.1
      | group seen layout => exact absurd rfl h.2.1
      | frame seen layout => cases h.2.1
  | append_singleton cells j ih =>
    rw [observeCells_append, bind_eq_ok, fits_concat]
    refine exists_congr fun middle => and_congr ih ?_
    rw [observeCells_cons, bind_eq_ok]
    simp

end Shape

end ColumnSelection
