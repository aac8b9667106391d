import ColumnSelection.Json.Basic
import ColumnSelection.Program.Reader

/-!
# Equality of values

Two values can be compared, and with them the steps and the programs that hold them. What a text
is read to can therefore be found out by running the reader.
-/
namespace ColumnSelection

namespace Json

mutual

/-- Whether two values are the same, with the entries of objects in the same order. -/
def same : Json → Json → Bool
  | .null, .null => true
  | .bool a, .bool b => decide (a = b)
  | .int m, .int n => decide (m = n)
  | .float x, .float y => decide (x = y)
  | .str s, .str t => decide (s = t)
  | .arr items, .arr items' => sameItems items items'
  | .obj fields, .obj fields' => sameFields fields fields'
  | _, _ => false
termination_by structural j => j

@[inherit_doc same]
def sameItems : List Json → List Json → Bool
  | [], [] => true
  | j :: rest, j' :: rest' => same j j' && sameItems rest rest'
  | _, _ => false
termination_by structural items => items

@[inherit_doc same]
def sameFields : List (String × Json) → List (String × Json) → Bool
  | [], [] => true
  | (k, j) :: rest, (k', j') :: rest' => decide (k = k') && same j j' && sameFields rest rest'
  | _, _ => false
termination_by structural fields => fields

end

mutual

theorem same_iff : ∀ j j' : Json, same j j' = true ↔ j = j'
  | .arr items, j' => by
    cases j' <;> simp [same, sameItems_iff items]
  | .obj fields, j' => by
    cases j' <;> simp [same, sameFields_iff fields]
  | .null, j' => by cases j' <;> simp [same]
  | .bool _, j' => by cases j' <;> simp [same]
  | .int _, j' => by cases j' <;> simp [same]
  | .float _, j' => by cases j' <;> simp [same]
  | .str _, j' => by cases j' <;> simp [same]
termination_by structural j => j

theorem sameItems_iff : ∀ items items' : List Json, sameItems items items' = true ↔ items = items'
  | [], items' => by cases items' <;> simp [sameItems]
  | j :: rest, items' => by
    cases items' <;> simp [sameItems, same_iff j, sameItems_iff rest]
termination_by structural items => items

theorem sameFields_iff :
    ∀ fields fields' : List (String × Json), sameFields fields fields' = true ↔ fields = fields'
  | [], fields' => by cases fields' <;> simp [sameFields]
  | (k, j) :: rest, fields' => by
    cases fields' <;> simp [sameFields, same_iff j, sameFields_iff rest, Prod.ext_iff]
termination_by structural fields => fields

end

instance : DecidableEq Json :=
  fun j j' => decidable_of_iff _ (same_iff j j')

end Json

deriving instance DecidableEq for Step

deriving instance DecidableEq for Program

deriving instance DecidableEq for Program.Reading

end ColumnSelection
