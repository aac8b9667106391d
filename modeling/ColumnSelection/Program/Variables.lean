import ColumnSelection.Entries
import ColumnSelection.Failure
import ColumnSelection.Json.Basic

/-!
# Variables

A text that is a variable reference as a whole stands for the variable's value. Values put in
are not looked through again.
-/
namespace ColumnSelection.Program

/-- Variables with their values. -/
abbrev Bindings := List (String × Json)

/-- What a text can refer to. -/
inductive VariableUse where
  /-- The variable has to be bound. -/
  | required (name : String)
  /-- The text stands for itself when the variable is not bound. -/
  | optional (name : String)
  | none

/-- How a text refers to a variable. -/
def variableUse (s : String) : VariableUse :=
  match s.toList with
  | '$' :: '{' :: rest =>
    if rest.getLast? = some '}' then .required (String.ofList rest.dropLast)
    else .optional (String.ofList ('{' :: rest))
  | '$' :: rest => .optional (String.ofList rest)
  | _ => .none

/-- The value that a text stands for. -/
def substituteText (bindings : Bindings) (s : String) : Except Failure Json :=
  match variableUse s with
  | .required name =>
    match Entries.get? name bindings with
    | some value => .ok value
    | none => .error (.validation (.undefinedVariable name))
  | .optional name => .ok ((Entries.get? name bindings).getD (.str s))
  | .none => .ok (.str s)

mutual

/-- The value with every text replaced by what it stands for. -/
def substitute (bindings : Bindings) : Json → Except Failure Json
  | .str s => substituteText bindings s
  | .arr items => do return .arr (← substituteItems bindings items)
  | .obj fields => do return .obj (← substituteFields bindings fields)
  | .null => .ok .null
  | .bool b => .ok (.bool b)
  | .int n => .ok (.int n)
  | .float x => .ok (.float x)
termination_by structural j => j

/-- Substitution in the items of an array. -/
def substituteItems (bindings : Bindings) : List Json → Except Failure (List Json)
  | [] => .ok []
  | j :: rest => do
    let item ← substitute bindings j
    let items ← substituteItems bindings rest
    return item :: items
termination_by structural items => items

/-- Substitution in the values of an object; keys are left alone. -/
def substituteFields (bindings : Bindings) :
    List (String × Json) → Except Failure (List (String × Json))
  | [] => .ok []
  | (k, j) :: rest => do
    let value ← substitute bindings j
    let fields ← substituteFields bindings rest
    return (k, value) :: fields
termination_by structural fields => fields

end

end ColumnSelection.Program
