import ColumnSelection.Numeric.Literal

/-!
# YAML values

What nodes denote once their tags are resolved and references are followed. Values serve as keys,
so they have an equality of their own: numbers that are not numbers are equal, zeros of either sign
are, and mappings with equal entries are whatever their order.
-/
namespace ColumnSelection.Yaml

open Numeric (FloatLiteral)

inductive Value where
  | null
  | bool (b : Bool)
  | int (n : Int)
  | float (x : FloatLiteral)
  | str (s : String)
  | sequence (items : List Value)
  | mapping (entries : List (Value × Value))
  /-- A value with a tag that is not resolved. -/
  | tagged (tag : String) (v : Value)
deriving Inhabited

/-- Equality of floats as keys. -/
def sameFloat (x y : FloatLiteral) : Bool :=
  match x, y with
  | .finite a, .finite b => a == b || (a.isZero && b.isZero)
  | x, y => x == y

namespace Value

mutual

/-- Equality of values as keys. -/
def same : Value → Value → Bool
  | .null, .null => true
  | .bool a, .bool b => a == b
  | .int a, .int b => a == b
  | .float x, .float y => sameFloat x y
  | .str a, .str b => a == b
  | .sequence items, .sequence items' => sameItems items items'
  | .mapping entries, .mapping entries' =>
    entries.length == entries'.length && sameEntries entries entries'
  | .tagged t v, .tagged t' v' => t == t' && same v v'
  | _, _ => false
termination_by structural v => v

/-- Equality of sequences item by item. -/
def sameItems : List Value → List Value → Bool
  | [], [] => true
  | v :: rest, v' :: rest' => same v v' && sameItems rest rest'
  | _, _ => false
termination_by structural items => items

/-- Whether every entry of the first list has an equal one in the second. -/
def sameEntries : List (Value × Value) → List (Value × Value) → Bool
  | [], _ => true
  | (k, v) :: rest, entries =>
    (entries.any fun (k', v') => same k k' && same v v') && sameEntries rest entries
termination_by structural entries => entries

end

/-- Whether some entry has an equal key. -/
def hasKey (key : Value) (entries : List (Value × Value)) : Bool :=
  entries.any fun (k, _) => same key k

end Value

end ColumnSelection.Yaml
