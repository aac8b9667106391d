import ColumnSelection.Program.Arguments
import ColumnSelection.Selection.Predicate

/-!
# Predicates in programs

The written form of predicates. A text asks for that very name, a list for all of its items, and
an object for all of the filters under its known keys.
-/
namespace ColumnSelection.Program

/-- The predicate of a name pattern. -/
def matchesName (text : String) : Except Failure Predicate :=
  match Pattern.parse? text with
  | some pattern => .ok (.nameMatches pattern)
  | none => .error (.validation .namePattern)

/-- The predicate of several filters that hold together. -/
def conjunction : List Predicate → Predicate
  | [] => .any
  | [p] => p
  | ps => .allOf ps

/-- The keys under which a filter is written that holds no other predicate. -/
def plainFilter? (ignoreCase : Bool) (key : String) (j : Json) :
    Option (Except Failure Predicate) :=
  match key with
  | "name" => some do return .nameEquals (← nameOf j) ignoreCase
  | "contains" => some do return .nameContains (← nameOf j) ignoreCase
  | "starts_with" => some do return .nameStartsWith (← nameOf j) ignoreCase
  | "ends_with" => some do return .nameEndsWith (← nameOf j) ignoreCase
  | "matches" => some do matchesName (← nameOf j)
  | "kind" | "kinds" => some do return .kindIn (← (← namesOf j).mapM Kind.parse)
  | "type" => some do return .typeBelow (← DataType.parse (← nameOf j))
  | _ => none

/-- The predicates listed by a value that reads as `p`: a list reads as the conjunction of its
items, and any other value stands for a list of itself. -/
def members (j : Json) (p : Predicate) : List Predicate :=
  match j, p with
  | .arr _, .allOf ps => ps
  | _, p => [p]

mutual

/-- Reads a predicate. -/
def readPredicate : Json → Except Failure Predicate
  | .null => .ok .any
  | .str s => .ok (if s = "*" ∨ s = "any" then .any else .nameEquals s false)
  | .arr items => do return .allOf (← readPredicates items)
  | .obj fields => do return conjunction (← readFilters (ignoreCase (.obj fields)) fields)
  | .bool b => .error (.validation (.notAPredicate (Json.bool b).compact))
  | .int n => .error (.validation (.notAPredicate (Json.int n).compact))
  | .float x => .error (.validation (.notAPredicate (Json.float x).compact))
termination_by structural j => j

/-- Reads the predicates of a list. -/
def readPredicates : List Json → Except Failure (List Predicate)
  | [] => .ok []
  | j :: rest => do
    let p ← readPredicate j
    let ps ← readPredicates rest
    return p :: ps
termination_by structural items => items

/-- Reads the filters of an object in the order of its keys; unknown keys are passed over. What
stands under `all_of` and `any_of` is a list of predicates or a single one. -/
def readFilters (ignoreCase : Bool) : List (String × Json) → Except Failure (List Predicate)
  | [] => .ok []
  | (key, j) :: rest => do
    let here ← match plainFilter? ignoreCase key j with
      | some p => do pure [← p]
      | none =>
        if key = "not" then do pure [.not (← readPredicate j)]
        else if key = "all_of" ∨ key = "any_of" then do
          let ps := members j (← readPredicate j)
          pure [if key = "all_of" then .allOf ps else .anyOf ps]
        else if key = "predicate" ∨ key = "where" then do pure [← readPredicate j]
        else pure []
    let more ← readFilters ignoreCase rest
    return here ++ more
termination_by structural fields => fields

end

/-- The keys of a configuration that describe a predicate. -/
def predicateKeys : List String :=
  ["predicate", "where", "name", "contains", "starts_with", "ends_with", "matches", "kind",
    "kinds", "type", "not", "all_of", "any_of"]

/-- The predicate of a configuration, if it describes one. -/
def predicateArgument? (config : Json) : Except Failure (Option Predicate) :=
  match firstUnder ["predicate", "where"] config with
  | some nested => do return some (← readPredicate nested)
  | none =>
    match config with
    | .obj fields =>
      if predicateKeys.any fun key => Entries.contains key fields then do
        return some (← readPredicate config)
      else return none
    | _ => return none

/-- The predicate of a configuration; without one every column is meant. -/
def predicateArgument (config : Json) : Except Failure Predicate := do
  return (← predicateArgument? config).getD .any

end ColumnSelection.Program
