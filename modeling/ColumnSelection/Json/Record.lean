import ColumnSelection.Json.Basic

/-!
# Reading typed data from JSON

Typed data with named fields is written as an object, in which unknown keys are ignored and a
known key stands at most once, or as an array with the fields in their order. A word of a fixed
list is written as a string, or as an object with the word as its only key and an empty value.
The readers take values that keep all entries of the text.
-/
namespace ColumnSelection.Json

/-- How an object is read for an array of values with trailing ones left out: some value, no
value, or a fault. -/
def entryOnce? {α : Type u} : List α → Option (Option α)
  | [] => some none
  | [a] => some (some a)
  | _ => none

/-- The values under one key, in order. -/
def valuesOf (key : String) (fields : List (String × Json)) : List Json :=
  fields.filterMap fun (k, v) => if k = key then some v else none

/-- The values of named fields, absent ones as `none`. -/
def fieldsNamed? (names : List String) : Json → Option (List (Option Json))
  | .obj fields => names.mapM fun name => entryOnce? (valuesOf name fields)
  | .arr items =>
    if items.length ≤ names.length then
      some ((items.map some) ++ List.replicate (names.length - items.length) none)
    else none
  | _ => none

/-- Reads a list of strings. -/
def strings? : Json → Option (List String)
  | .arr items => items.mapM str?
  | _ => none

/-- Reads a string that may be null or absent. -/
def optionalString? : Option Json → Option (Option String)
  | none => some none
  | some .null => some none
  | some (.str s) => some (some s)
  | some _ => none

/-- Reads a truth value that is false when absent. -/
def flag? : Option Json → Option Bool
  | none => some false
  | some (.bool b) => some b
  | some _ => none

/-- The word that stands for one of a fixed list. Data that was set aside before its reading, as
inside a tagged value, may also have an empty object behind the word. -/
def word? (setAside : Bool) : Json → Option String
  | .str s => some s
  | .obj [(word, .null)] => some word
  | .obj [(word, .obj [])] => if setAside then some word else none
  | _ => none

end ColumnSelection.Json
