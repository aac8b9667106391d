import ColumnSelection.Column.DataType
import ColumnSelection.Json.Printer
import ColumnSelection.Program.Operator
import ColumnSelection.Text.Pieces

/-!
# Arguments of steps

An argument is looked up in the configuration of a step under its own keys, then among the
positional arguments, which stand under `args` or are the configuration itself.
-/
namespace ColumnSelection.Program

/-- The value under the first key that is present. -/
def firstUnder (keys : List String) (config : Json) : Option Json :=
  keys.findSome? fun key => config.get? key

/-- The argument values: those under the first key present, or the positional ones. -/
def arguments (keys : List String) (config : Json) : List Json :=
  match firstUnder (keys ++ ["args"]) config, config with
  | some (.arr items), _ => items
  | some value, _ => [value]
  | none, .arr items => items
  | none, .obj _ => []
  | none, .null => []
  | none, scalar => [scalar]

/-- The name that a text or a number spells. -/
def nameOf : Json → Except Failure String
  | .str s => .ok s
  | .int n => .ok (toString n)
  | .float x => .ok (x.spell Json.floatLayout)
  | other => .error (.validation (.notAName other.compact))

/-- The names that a list of values or a single value spells. -/
def namesOf : Json → Except Failure (List String)
  | .arr items => items.mapM nameOf
  | other => do return [← nameOf other]

/-- The failure of an operator without a needed argument. -/
def missing {α : Type} (o : Operator) (what : String) : Except Failure α :=
  .error (.validation (.missing o.word what))

/-- The count that a number or a text spells. -/
def countOf (o : Operator) (j : Json) : Except Failure Nat :=
  let count := match j with
    | .int n => if 0 ≤ n then some n.toNat else none
    | .str s => Numeric.readWord64? (Text.trimBy Text.isBlank s.toList)
    | _ => none
  match count with
  | some n => .ok n
  | none => .error (.validation (.notACount o.word j.compact))

/-- The count of a slice. -/
def countArgument (o : Operator) (config : Json) : Except Failure Nat :=
  match arguments ["count", "n"] config with
  | [] => missing o "a count"
  | j :: _ => countOf o j

/-- The text of a name filter or a display name. -/
def textArgument (o : Operator) (config : Json) : Except Failure String :=
  match arguments ["text", "prefix", "suffix", "pattern", "name", "value"] config with
  | [] => missing o "a text argument"
  | j :: _ => nameOf j

/-- Whether letter case is to be ignored. -/
def ignoreCase (config : Json) : Bool :=
  ((config.get? "ignore_case").bind Json.bool?).getD false

/-- The type of a type filter. -/
def typeArgument (o : Operator) (config : Json) : Except Failure DataType :=
  match arguments ["type"] config with
  | [] => missing o "a column type"
  | j :: _ => do DataType.parse (← nameOf j)

/-- The kinds of a kind filter, at least one. -/
def kindsArgument (o : Operator) (config : Json) : Except Failure (List Kind) := do
  let kinds ← (arguments ["kinds", "kind"] config).mapM fun j => do Kind.parse (← nameOf j)
  if kinds.isEmpty then missing o "at least one column kind" else return kinds

/-- The group of a scoped operator, and the positional arguments left for the inner selection. -/
def groupArgument (o : Operator) (config : Json) : Except Failure (String × List Json) :=
  match config.get? "group", arguments [] config with
  | some group, args => do return (← nameOf group, args)
  | none, j :: rest => do return (← nameOf j, rest)
  | none, [] => missing o "a 'group'"

end ColumnSelection.Program
