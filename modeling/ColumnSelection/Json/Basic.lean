import ColumnSelection.Entries
import ColumnSelection.Numeric.Shortest
import ColumnSelection.Numeric.Literal

/-!
# JSON values

Whole numbers and floats are different values. An object keeps its entries in the order of its
text; after `Json.merge` no object repeats a key.
-/
namespace ColumnSelection

inductive Json where
  | null
  | bool (b : Bool)
  | int (n : Int)
  | float (x : Numeric.Binary64)
  | str (s : String)
  | arr (items : List Json)
  | obj (fields : List (String × Json))
deriving Inhabited

namespace Json

/-- The entries of an object. -/
def fields? : Json → Option (List (String × Json))
  | .obj fields => some fields
  | _ => none

/-- The value under a key; only objects have any. -/
def get? (key : String) : Json → Option Json
  | .obj fields => Entries.get? key fields
  | _ => none

def str? : Json → Option String
  | .str s => some s
  | _ => none

def bool? : Json → Option Bool
  | .bool b => some b
  | _ => none

def isObject : Json → Bool
  | .obj _ => true
  | _ => false

mutual

/-- Every object with each key once: in the place of its first entry, with the last value. -/
def merge : Json → Json
  | .arr items => .arr (mergeItems items)
  | .obj fields => .obj (Entries.ofList (mergeFields fields))
  | .null => .null
  | .bool b => .bool b
  | .int n => .int n
  | .float x => .float x
  | .str s => .str s
termination_by structural j => j

/-- Merging within the items of an array. -/
def mergeItems : List Json → List Json
  | [] => []
  | j :: rest => merge j :: mergeItems rest
termination_by structural items => items

/-- Merging within the values of an object. -/
def mergeFields : List (String × Json) → List (String × Json)
  | [] => []
  | (k, j) :: rest => (k, merge j) :: mergeFields rest
termination_by structural fields => fields

end

mutual

/-- No object at any depth repeats a key. -/
def Merged : Json → Prop
  | .arr items => MergedItems items
  | .obj fields => (fields.map Prod.fst).Nodup ∧ MergedFields fields
  | .null | .bool _ | .int _ | .float _ | .str _ => True
termination_by structural j => j

@[inherit_doc Merged]
def MergedItems : List Json → Prop
  | [] => True
  | j :: rest => Merged j ∧ MergedItems rest
termination_by structural items => items

@[inherit_doc Merged]
def MergedFields : List (String × Json) → Prop
  | [] => True
  | (_, j) :: rest => Merged j ∧ MergedFields rest
termination_by structural fields => fields

end

theorem mergedFields_iff (fields : List (String × Json)) :
    MergedFields fields ↔ ∀ e ∈ fields, Merged e.2 := by
  induction fields with
  | nil => simp [MergedFields]
  | cons e rest ih => simp [MergedFields, ih]

mutual

theorem merged_merge : ∀ j : Json, Merged (merge j)
  | .arr items => by simpa [merge, Merged] using mergedItems_merge items
  | .obj fields => by
    simp only [merge, Merged]
    refine ⟨Entries.nodup_keys_ofList _, (mergedFields_iff _).mpr fun e he => ?_⟩
    exact (mergedFields_iff _).mp (mergedFields_merge fields) e (Entries.mem_ofList he)
  | .null => trivial
  | .bool _ => trivial
  | .int _ => trivial
  | .float _ => trivial
  | .str _ => trivial

theorem mergedItems_merge : ∀ items : List Json, MergedItems (mergeItems items)
  | [] => trivial
  | j :: rest => ⟨merged_merge j, mergedItems_merge rest⟩

theorem mergedFields_merge : ∀ fields : List (String × Json), MergedFields (mergeFields fields)
  | [] => trivial
  | (_, j) :: rest => ⟨merged_merge j, mergedFields_merge rest⟩

end

mutual

/-- The number of values and of characters in strings and keys. -/
def weight : Json → Nat
  | .arr items => 1 + weightItems items
  | .obj fields => 1 + weightFields fields
  | .str s => 1 + s.length
  | .null | .bool _ | .int _ | .float _ => 1
termination_by structural j => j

@[inherit_doc weight]
def weightItems : List Json → Nat
  | [] => 0
  | j :: rest => weight j + weightItems rest
termination_by structural items => items

@[inherit_doc weight]
def weightFields : List (String × Json) → Nat
  | [] => 0
  | (k, j) :: rest => k.length + weight j + weightFields rest
termination_by structural fields => fields

end

end Json

end ColumnSelection
