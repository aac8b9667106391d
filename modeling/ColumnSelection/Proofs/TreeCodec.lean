import ColumnSelection.Column.Codec

/-!
# Reading a tree back from its written form

The reader of columns undoes the writer, whatever names, paths and display names a column has and
however groups and frames are nested. The written form repeats no key, so nothing of it is lost
where an object keeps each key once.
-/
namespace ColumnSelection

open Json

section parts

theorem strings?_map_str (names : List String) : strings? (.arr (names.map .str)) = some names := by
  rw [strings?, List.mapM_map]
  induction names with
  | nil => rfl
  | cons name rest ih => simp [List.mapM_cons, ih, str?]

theorem Path.ofJson?_toJson (p : Path) : Path.ofJson? p.toJson = some p := by
  have hfields : fieldsNamed? ["segments"] p.toJson =
      some [some (.arr (p.segments.map .str))] := rfl
  rw [Path.ofJson?, hfields]
  simp [strings?_map_str]

theorem DataType.ofJson?_toJson (setAside : Bool) (t : DataType) :
    DataType.ofJson? setAside t.toJson = some t := by
  have hfields : fieldsNamed? ["base", "nullable"] t.toJson =
      some [some (.str t.base.text), some (.bool t.nullable)] := rfl
  rw [DataType.ofJson?, hfields]
  simp [word?, BaseType.ofText?_text, flag?]

theorem Path.merged_toJson (p : Path) : p.toJson.Merged := by
  have hitems : ∀ names : List String, MergedItems (names.map .str) := by
    intro names
    induction names with
    | nil => trivial
    | cons name rest ih => exact ⟨trivial, ih⟩
  exact ⟨by simp, hitems p.segments, trivial⟩

theorem DataType.merged_toJson (t : DataType) : t.toJson.Merged :=
  ⟨by simp, trivial, trivial, trivial⟩

end parts

namespace Column

/-- The written form of what makes a column of its kind. -/
def dataJson : Column → Json
  | .value _ t => .obj [("kind", .str "value"), ("data_type", t.toJson)]
  | .group _ cs => .obj [("kind", .str "group"), ("children", .arr (toJsonAll cs))]
  | .frame _ s => .obj [("kind", .str "frame"), ("schema", .arr (toJsonAll s))]

theorem toJson_eq (c : Column) :
    c.toJson = .obj (labelFields c.label ++ [("data", c.dataJson)]) := by
  cases c <;> rfl

section reading

variable (nested : Bool) (l : Label)

/-- A written column is read as its label and its data, each on its own. -/
theorem ofJson?_labelled (data : Json) :
    ofJson? nested (.obj (labelFields l ++ [("data", data)])) =
      (body? nested data).map (Body.label l) := by
  obtain ⟨name, path, shownAs⟩ := l
  cases shownAs <;> cases hdata : body? nested data <;>
    simp [ofJson?, labelFields, valuesOf, entryOnce?, label?, Path.ofJson?_toJson,
      optionalString?, bodiesUnder, hdata]

theorem body?_value (t : DataType) : body? nested (dataJson (.value l t)) = some (.value t) := by
  have hkind : kindTag? nested (.str "value") = some .value := rfl
  simp [dataJson, body?, valuesOf, entryOnce?, hkind, typeEntry?, DataType.ofJson?_toJson]

variable {cs : List Column} (h : allOfJson? true (toJsonAll cs) = some cs)
include h

theorem body?_group : body? nested (dataJson (.group l cs)) = some (.group cs) := by
  have hkind : kindTag? nested (.str "group") = some .group := rfl
  simp [dataJson, body?, valuesOf, entryOnce?, hkind, columnsUnder, columns?, h, onlyColumns?]

theorem body?_frame : body? nested (dataJson (.frame l cs)) = some (.frame cs) := by
  have hkind : kindTag? nested (.str "frame") = some .frame := rfl
  simp [dataJson, body?, valuesOf, entryOnce?, hkind, columnsUnder, columns?, h, onlyColumns?]

end reading

mutual

theorem ofJson?_toJson (nested : Bool) : ∀ c : Column, ofJson? nested c.toJson = some c
  | .value l t => by
    rw [toJson_eq, ofJson?_labelled, body?_value]
    rfl
  | .group l cs => by
    rw [toJson_eq, ofJson?_labelled, body?_group nested l (allOfJson?_toJsonAll true cs)]
    rfl
  | .frame l s => by
    rw [toJson_eq, ofJson?_labelled, body?_frame nested l (allOfJson?_toJsonAll true s)]
    rfl
termination_by structural c => c

theorem allOfJson?_toJsonAll (nested : Bool) :
    ∀ cs : List Column, allOfJson? nested (toJsonAll cs) = some cs
  | [] => rfl
  | c :: rest => by
    rw [toJsonAll, allOfJson?, ofJson?_toJson nested c, allOfJson?_toJsonAll nested rest]
    rfl
termination_by structural cs => cs

end

/-- The label repeats no key, and the data stand under a further one. -/
theorem merged_labelled (l : Label) {data : Json} (h : data.Merged) :
    (Json.obj (labelFields l ++ [("data", data)])).Merged := by
  obtain ⟨name, path, shownAs⟩ := l
  cases shownAs with
  | none => exact ⟨by simp [labelFields], trivial, path.merged_toJson, h, trivial⟩
  | some shown => exact ⟨by simp [labelFields], trivial, path.merged_toJson, trivial, h, trivial⟩

mutual

theorem merged_toJson : ∀ c : Column, c.toJson.Merged
  | .value l t => by
    rw [toJson_eq]
    exact merged_labelled l ⟨by simp, trivial, t.merged_toJson, trivial⟩
  | .group l cs => by
    rw [toJson_eq]
    exact merged_labelled l ⟨by simp, trivial, mergedItems_toJsonAll cs, trivial⟩
  | .frame l s => by
    rw [toJson_eq]
    exact merged_labelled l ⟨by simp, trivial, mergedItems_toJsonAll s, trivial⟩
termination_by structural c => c

theorem mergedItems_toJsonAll : ∀ cs : List Column, MergedItems (toJsonAll cs)
  | [] => trivial
  | c :: rest => ⟨merged_toJson c, mergedItems_toJsonAll rest⟩
termination_by structural cs => cs

end

end Column

/-- Every tree is read back from its written form, which repeats no key, and what was read is
written the same way again. -/
theorem Tree.ofJson?_toJson_eq_self (t : Tree) :
    t.toJson.Merged ∧ Tree.ofJson? t.toJson = some t ∧
      (Tree.ofJson? t.toJson).map Tree.toJson = some t.toJson := by
  have hread : Tree.ofJson? t.toJson = some t := by
    have hfields : fieldsNamed? ["columns"] t.toJson =
        some [some (.arr (Column.toJsonAll t.columns))] := rfl
    rw [Tree.ofJson?, hfields]
    simp [Column.allOfJson?_toJsonAll]
  refine ⟨⟨by simp, Column.mergedItems_toJsonAll t.columns, trivial⟩, hread, ?_⟩
  rw [hread, Option.map_some]

end ColumnSelection
