import ColumnSelection.Column.Tree
import ColumnSelection.Json.Record

/-!
# Columns as JSON

The written form of paths, types, kinds, columns and trees, and the readers for it. What kind of
column is meant stands in the column's data under `kind`.
-/
namespace ColumnSelection

open Json

/-- The written form of a path. -/
def Path.toJson (p : Path) : Json :=
  .obj [("segments", .arr (p.segments.map .str))]

/-- Reads a path. -/
def Path.ofJson? (j : Json) : Option Path := do
  let [some segments] ← fieldsNamed? ["segments"] j | none
  return ⟨← strings? segments⟩

/-- The written form of a type. -/
def DataType.toJson (t : DataType) : Json :=
  .obj [("base", .str t.base.text), ("nullable", .bool t.nullable)]

/-- Reads a type. -/
def DataType.ofJson? (setAside : Bool) (j : Json) : Option DataType := do
  let [some base, nullable] ← fieldsNamed? ["base", "nullable"] j | none
  let base ← BaseType.ofText? (← word? setAside base)
  return ⟨base, ← flag? nullable⟩

/-- The written form of a kind. -/
def Kind.toJson (k : Kind) : Json :=
  .str k.text

/-- Reads a kind. -/
def Kind.ofJson? (j : Json) : Option Kind := do
  Kind.ofText? (← word? false j)

namespace Column

/-- A column's entries before and behind its data. -/
def labelFields (l : Label) : List (String × Json) :=
  [("name", .str l.name), ("path", l.path.toJson)] ++
    match l.shownAs with
    | some shown => [("alias", .str shown)]
    | none => []

mutual

/-- The written form of a column. -/
def toJson : Column → Json
  | .value l t =>
    .obj (labelFields l ++ [("data", .obj [("kind", .str "value"), ("data_type", t.toJson)])])
  | .group l cs =>
    .obj (labelFields l ++
      [("data", .obj [("kind", .str "group"), ("children", .arr (toJsonAll cs))])])
  | .frame l s =>
    .obj (labelFields l ++
      [("data", .obj [("kind", .str "frame"), ("schema", .arr (toJsonAll s))])])
termination_by structural c => c

/-- The written forms of the columns of a list. -/
def toJsonAll : List Column → List Json
  | [] => []
  | c :: rest => toJson c :: toJsonAll rest
termination_by structural cs => cs

end

/-- What makes a column of a kind, still without its label. -/
inductive Body where
  | value (type : DataType)
  | group (children : List Column)
  | frame (schema : List Column)

/-- A column from its two parts. -/
def Body.label (l : Label) : Body → Column
  | .value t => .value l t
  | .group cs => .group l cs
  | .frame s => .frame l s

/-- Reads a kind inside data; below another column's data it may be given by its place in the
list of kinds. -/
def kindTag? (nested : Bool) : Json → Option Kind
  | .str s => Kind.ofText? s
  | .int n => if nested && 0 ≤ n then Kind.all[n.toNat]? else none
  | _ => none

/-- Reads a label from the fields of a column. -/
def label? (name path shownAs : Option Json) : Option Label := do
  let some (.str name) := name | none
  let path ← Path.ofJson? (← path)
  return ⟨name, path, ← optionalString? shownAs⟩

/-- Reads a type from the entries of an object. -/
def typeEntry? (fields : List (String × Json)) : Option DataType := do
  DataType.ofJson? true (← (← entryOnce? (valuesOf "data_type" fields)))

/-- Reads the columns under the one key that a kind of group has. -/
def onlyColumns? (readings : List (Option (List Column))) : Option (List Column) :=
  match readings with
  | [columns] => columns
  | _ => none

mutual

/-- Reads a column. `nested` says whether it stands inside the data of another. -/
def ofJson? (nested : Bool) : Json → Option Column
  | .obj fields => do
    let label ← label? (← entryOnce? (valuesOf "name" fields))
      (← entryOnce? (valuesOf "path" fields)) (← entryOnce? (valuesOf "alias" fields))
    let [body] := bodiesUnder nested fields | none
    return (← body).label label
  | .arr [name, path, shownAs, body] => do
    let label ← label? (some name) (some path) (some shownAs)
    return (← body? nested body).label label
  | _ => none
termination_by structural j => j

/-- The readings of the entries under `data`. -/
def bodiesUnder (nested : Bool) : List (String × Json) → List (Option Body)
  | [] => []
  | (key, j) :: rest =>
    if key = "data" then body? nested j :: bodiesUnder nested rest else bodiesUnder nested rest
termination_by structural fields => fields

/-- Reads the data of a column. -/
def body? (nested : Bool) : Json → Option Body
  | .obj fields => do
    match ← kindTag? nested (← (← entryOnce? (valuesOf "kind" fields))) with
    | .value => return .value (← typeEntry? fields)
    | .group => return .group (← onlyColumns? (columnsUnder "children" fields))
    | .frame => return .frame (← onlyColumns? (columnsUnder "schema" fields))
  | .arr [tag, content] => do
    match ← kindTag? nested tag with
    | .value => return .value (← DataType.ofJson? true content)
    | .group => return .group (← columns? content)
    | .frame => return .frame (← columns? content)
  | _ => none
termination_by structural j => j

/-- The readings of the entries under a key as lists of columns. -/
def columnsUnder (key : String) : List (String × Json) → List (Option (List Column))
  | [] => []
  | (k, j) :: rest => if k = key then columns? j :: columnsUnder key rest else columnsUnder key rest
termination_by structural fields => fields

/-- Reads a list of columns inside the data of a column. -/
def columns? : Json → Option (List Column)
  | .arr items => allOfJson? true items
  | _ => none
termination_by structural j => j

/-- Reads every item of a list as a column. -/
def allOfJson? (nested : Bool) : List Json → Option (List Column)
  | [] => some []
  | j :: rest => do
    let c ← ofJson? nested j
    let cs ← allOfJson? nested rest
    return c :: cs
termination_by structural items => items

end

end Column

/-- The written form of a tree. -/
def Tree.toJson (t : Tree) : Json :=
  .obj [("columns", .arr (Column.toJsonAll t.columns))]

/-- Reads a tree without checking names or paths. -/
def Tree.ofJson? (j : Json) : Option Tree := do
  let [some (.arr items)] ← fieldsNamed? ["columns"] j | none
  return ⟨← Column.allOfJson? false items⟩

end ColumnSelection
