import ColumnSelection.Failure
import ColumnSelection.Json.Record

/-!
# Failures as JSON

The written form of a failure: an object whose only key names the category.
-/
namespace ColumnSelection.Failure

open Json

/-- The name of the category. -/
def category : Failure → String
  | .columnNotFound .. => "ColumnNotFound"
  | .notAGroup _ => "NotAColumnGroup"
  | .typeMismatch .. => "TypeMismatch"
  | .ambiguous _ => "AmbiguousSingle"
  | .io _ => "Io"
  | .schema _ => "Schema"
  | .validation _ => "Validation"
  | .operator .. => "Operator"
  | .serialization _ => "Serde"
  | .internal _ => "Internal"

/-- What stands under the name of the category. -/
def content : Failure → Json
  | .columnNotFound name place => .obj [("name", .str name), ("scope", .str place)]
  | .notAGroup path => .obj [("path", .str path)]
  | .typeMismatch path expected actual =>
    .obj [("path", .str path), ("expected", .str expected), ("actual", .str actual)]
  | .ambiguous count => .obj [("count", .int count)]
  | .io detail => .str detail
  | .schema fault => .obj [("message", .str fault.message)]
  | .validation fault => .obj [("message", .str fault.message)]
  | .operator name message => .obj [("operator", .str name), ("message", .str message)]
  | .serialization detail => .str detail
  | .internal detail => .str detail

/-- The written form of a failure. -/
def toJson (e : Failure) : Json :=
  .obj [(e.category, e.content)]

/-- Reads fields that are all present and all strings. -/
def textFields? (names : List String) (j : Json) : Option (List String) := do
  (← fieldsNamed? names j).mapM fun field => do (← field).str?

/-- Reads a count of at most 64 bits. -/
def count? (j : Json) : Option Nat := do
  let [some (.int n)] ← fieldsNamed? ["count"] j | none
  if 0 ≤ n ∧ n ≤ Numeric.maxWord64 then some n.toNat else none

/-- Reads a failure. -/
def ofJson? : Json → Option Failure
  | .obj [(category, content)] =>
    match category with
    | "ColumnNotFound" => do
      let [name, place] ← textFields? ["name", "scope"] content | none
      return .columnNotFound name place
    | "NotAColumnGroup" => do
      let [path] ← textFields? ["path"] content | none
      return .notAGroup path
    | "TypeMismatch" => do
      let [path, expected, actual] ← textFields? ["path", "expected", "actual"] content | none
      return .typeMismatch path expected actual
    | "AmbiguousSingle" => do return .ambiguous (← count? content)
    | "Io" => do return .io (← content.str?)
    | "Schema" => do
      let [message] ← textFields? ["message"] content | none
      return .schema (.stated message)
    | "Validation" => do
      let [message] ← textFields? ["message"] content | none
      return .validation (.stated message)
    | "Operator" => do
      let [name, message] ← textFields? ["operator", "message"] content | none
      return .operator name message
    | "Serde" => do return .serialization (← content.str?)
    | "Internal" => do return .internal (← content.str?)
    | _ => none
  | _ => none

end ColumnSelection.Failure
