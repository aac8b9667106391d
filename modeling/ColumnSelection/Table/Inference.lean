import ColumnSelection.Column.Tree
import ColumnSelection.Json.Basic

/-!
# Records and the columns inferred from them

A record is a row of a table: a payload whose keys are the columns, and an identifier that
projections leave alone. The layout of a level (the rows, the objects in a group column, or the objects in the arrays of a
frame column) is built by observing its objects one after the other. Each key has the shape that
its values so far agree on, and the number of objects in which it stood.
-/
namespace ColumnSelection

structure Record where
  id : Option String
  payload : Json
deriving Inhabited

namespace Record

/-- The value that a list of keys leads to. -/
def cellAt (j : Json) : List String → Option Json
  | [] => some j
  | key :: rest =>
    match j.get? key with
    | some below => cellAt below rest
    | none => none

/-- The cell at the path of a column. -/
def valueAt (r : Record) (p : Path) : Option Json :=
  cellAt r.payload p.segments

end Record

/-- What the values under one key have in common so far. -/
inductive Shape where
  /-- No value yet. -/
  | unseen
  /-- Nulls only. -/
  | onlyNull
  | scalar (type : DataType)
  /-- Objects, with the number of them and the shapes of their keys. -/
  | group (seen : Nat) (fields : List (String × Nat × Shape))
  /-- Arrays of objects, with the number of objects and the shapes of their keys. -/
  | frame (seen : Nat) (fields : List (String × Nat × Shape))
deriving Inhabited

/-- The observed keys of one level, each with the number of objects that had it. -/
abbrev Layout := List (String × Nat × Shape)

namespace Shape

/-- The shape after one more null. -/
def withNull : Shape → Shape
  | .unseen => .onlyNull
  | .scalar t => .scalar t.orNull
  | shape => shape

/-- The shape after one more value of a scalar type; an object or array of objects before it is a
conflict. -/
def withScalar (path : String) (observed : DataType) : Shape → Except Failure Shape
  | .unseen => .ok (.scalar observed)
  | .onlyNull => .ok (.scalar observed.orNull)
  | .scalar t => .ok (.scalar (t.widen observed))
  | .group .. | .frame .. => .error (.schema (.conflict path observed.base.text))

/-- The level that one more object joins. -/
def asGroup? : Shape → Option (Nat × Layout)
  | .unseen | .onlyNull => some (0, [])
  | .group seen fields => some (seen, fields)
  | _ => none

/-- The level that the objects of one more array join; an array without objects may have come
before. -/
def asFrame? : Shape → Option (Nat × Layout)
  | .unseen | .onlyNull => some (0, [])
  | .scalar t => if t.base = .list then some (0, []) else none
  | .frame seen fields => some (seen, fields)
  | _ => none

mutual

/-- Observes one value under the key at `path`. -/
def observe (path : String) (shape : Shape) : Json → Except Failure Shape
  | .null => .ok shape.withNull
  | .bool _ => shape.withScalar path ⟨.bool, false⟩
  | .int _ => shape.withScalar path ⟨.int, false⟩
  | .float _ => shape.withScalar path ⟨.float, false⟩
  | .str _ => shape.withScalar path ⟨.string, false⟩
  | .obj fields =>
    match shape.asGroup? with
    | none => .error (.schema (.conflict path "object"))
    | some (seen, layout) => do
      return .group (seen + 1) (← observeFields path layout fields)
  | .arr items =>
    if items.any Json.isObject then
      match shape.asFrame? with
      | none => .error (.schema (.conflict path "array of objects"))
      | some (seen, layout) => do
        let (seen, layout) ← observeItems path seen layout items
        return .frame seen layout
    else
      match shape with
      | .frame seen layout => .ok (.frame seen layout)
      | shape => shape.withScalar path ⟨.list, false⟩
termination_by structural j => j

/-- Observes the entries of one object of the level at `path`. -/
def observeFields (path : String) (layout : Layout) :
    List (String × Json) → Except Failure Layout
  | [] => .ok layout
  | (key, j) :: rest => do
    let (count, shape) := (Entries.get? key layout).getD (0, .unseen)
    let shape ← observe (if path.isEmpty then key else path ++ "." ++ key) shape j
    observeFields path (Entries.put key (count + 1, shape) layout) rest
termination_by structural fields => fields

/-- Observes the objects of one array. Nulls among them are passed over, and other items are a
conflict. -/
def observeItems (path : String) (seen : Nat) (layout : Layout) :
    List Json → Except Failure (Nat × Layout)
  | [] => .ok (seen, layout)
  | .obj fields :: rest => do
    let layout ← observeFields path layout fields
    observeItems path (seen + 1) layout rest
  | .null :: rest => observeItems path seen layout rest
  | _ :: _ => .error (.schema (.conflict path "mixed array"))
termination_by structural items => items

end

mutual

/-- The column of a key with this shape; `missing` says that some object of the level lacks the
key. -/
def toColumn (name : String) (missing : Bool) : Shape → Column
  | .unseen | .onlyNull => .topValue name ⟨.any, true⟩
  | .scalar t => .topValue name (if missing then t.orNull else t)
  | .group seen fields => .topGroup name (columnsOf seen fields)
  | .frame seen fields => .topFrame name (columnsOf seen fields)
termination_by structural shape => shape

/-- The columns of a level of `seen` objects. -/
def columnsOf (seen : Nat) : List (String × Nat × Shape) → List Column
  | [] => []
  | (name, count, shape) :: rest =>
    toColumn name (decide (count < seen)) shape :: columnsOf seen rest
termination_by structural fields => fields

end

end Shape

/-- Observes the rows of a batch, counted from `index`. -/
def Layout.ofRows (index : Nat) (layout : Layout) : List Record → Except Failure Layout
  | [] => .ok layout
  | r :: rest =>
    match r.payload with
    | .obj fields => do
      let layout ← Shape.observeFields "" layout fields
      ofRows (index + 1) layout rest
    | _ => .error (.schema (.rowNotObject index))

/-- The tree of the columns found in the rows of a batch. -/
def Tree.infer (rows : List Record) : Except Failure Tree := do
  let layout ← Layout.ofRows 0 [] rows
  Tree.build (Shape.columnsOf rows.length layout)

end ColumnSelection
