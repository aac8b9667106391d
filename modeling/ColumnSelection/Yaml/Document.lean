import ColumnSelection.Json.Basic
import ColumnSelection.Yaml.Denotation
import ColumnSelection.Yaml.Grammar
import ColumnSelection.Yaml.Layout

/-!
# YAML documents as JSON

YAML text read as a JSON value. Tags are dropped, and entries whose keys have no text are left out.
Numbers that are not finite become null, and whole numbers beyond 64 bits with a sign floats. In the
other direction every JSON value has a YAML value.
-/
namespace ColumnSelection.Yaml

open Numeric (FloatLayout FloatLiteral Binary64)

/-- Floats in keys have no plus sign in front of the exponent. -/
def keyLayout : FloatLayout := ⟨-5, 15, false⟩

/-- The text of a float as a key. -/
def floatKey : FloatLiteral → String
  | .finite x => x.spell keyLayout
  | .infinite negative => if negative then "-.inf" else ".inf"
  | .notANumber => ".nan"

namespace Value

/-- The text of a key; only scalars have one. -/
def keyText? : Value → Option String
  | .str s => some s
  | .bool b => some (if b then "true" else "false")
  | .int n => some (toString n)
  | .float x => some (floatKey x)
  | _ => none

/-- A whole number as JSON. -/
def intJson (n : Int) : Json :=
  if n ≤ Numeric.maxInt64 then .int n
  else ((Binary64.ofNat? n.toNat).map Json.float).getD .null

mutual

/-- The value as JSON. -/
def toJson : Value → Json
  | .null => .null
  | .bool b => .bool b
  | .int n => intJson n
  | .float (.finite x) => .float x
  | .float _ => .null
  | .str s => .str s
  | .sequence items => .arr (itemsToJson items)
  | .mapping entries => .obj (Entries.ofList (entriesToJson entries))
  | .tagged _ v => toJson v
termination_by structural v => v

@[inherit_doc toJson]
def itemsToJson : List Value → List Json
  | [] => []
  | v :: rest => toJson v :: itemsToJson rest
termination_by structural items => items

/-- The entries with keys that have a text. -/
def entriesToJson : List (Value × Value) → List (String × Json)
  | [] => []
  | (k, v) :: rest =>
    match keyText? k with
    | some key => (key, toJson v) :: entriesToJson rest
    | none => entriesToJson rest
termination_by structural entries => entries

end

mutual

/-- The value with the same nulls, truth values, numbers, texts, lists and keys. -/
def ofJson : Json → Value
  | .null => .null
  | .bool b => .bool b
  | .int n => .int n
  | .float x => .float (.finite x)
  | .str s => .str s
  | .arr items => .sequence (itemsOfJson items)
  | .obj fields => .mapping (entriesOfJson fields)
termination_by structural j => j

@[inherit_doc ofJson]
def itemsOfJson : List Json → List Value
  | [] => []
  | j :: rest => ofJson j :: itemsOfJson rest
termination_by structural items => items

/-- The entries with their keys as texts. -/
def entriesOfJson : List (String × Json) → List (Value × Value)
  | [] => []
  | (k, j) :: rest => (.str k, ofJson j) :: entriesOfJson rest
termination_by structural fields => fields

end

end Value

/-- The value of a YAML text; a text without a document is null. -/
def parse? (text : String) : Option Json := do
  let tokens ← Token.ofText? text
  match ← Node.ofTokens? tokens with
  | some root => return (← root.value?).toJson
  | none => return .null

end ColumnSelection.Yaml
