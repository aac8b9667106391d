/-!
# Nodes of YAML documents

A document as a tree whose leaves are scalars and references to nodes with anchors. Anchors are
kept as numbers.
-/
namespace ColumnSelection.Yaml

/-- What a node is marked with. -/
structure Marks where
  anchor : Option Nat := none
  tag : Option String := none
deriving DecidableEq, Repr

inductive Node where
  | reference (anchor : Nat)
  | scalar (marks : Marks) (text : String) (isPlain : Bool)
  | sequence (marks : Marks) (items : List Node)
  | mapping (marks : Marks) (entries : List (Node × Node))
deriving Inhabited

namespace Node

/-- A node that is left out. -/
def missing (marks : Marks) : Node :=
  .scalar marks "" true

def marks : Node → Marks
  | .reference _ => {}
  | .scalar m _ _ => m
  | .sequence m _ => m
  | .mapping m _ => m

/-- The node itself with its anchor, if it has one. -/
def own (node : Node) : List (Nat × Node) :=
  (node.marks.anchor.map (·, node)).toList

mutual

/-- All nodes with anchors, in the order of the text. -/
def anchored : Node → List (Nat × Node)
  | .reference _ => []
  | .scalar m text isPlain => own (.scalar m text isPlain)
  | .sequence m items => own (.sequence m items) ++ anchoredItems items
  | .mapping m entries => own (.mapping m entries) ++ anchoredEntries entries
termination_by structural node => node

@[inherit_doc anchored]
def anchoredItems : List Node → List (Nat × Node)
  | [] => []
  | node :: rest => anchored node ++ anchoredItems rest
termination_by structural items => items

@[inherit_doc anchored]
def anchoredEntries : List (Node × Node) → List (Nat × Node)
  | [] => []
  | (key, value) :: rest => anchored key ++ anchored value ++ anchoredEntries rest
termination_by structural entries => entries

end

mutual

/-- The number of leaves, and of both ends of collections. -/
def size : Node → Nat
  | .reference _ | .scalar _ _ _ => 1
  | .sequence _ items => 2 + sizeItems items
  | .mapping _ entries => 2 + sizeEntries entries
termination_by structural node => node

@[inherit_doc size]
def sizeItems : List Node → Nat
  | [] => 0
  | node :: rest => size node + sizeItems rest
termination_by structural items => items

@[inherit_doc size]
def sizeEntries : List (Node × Node) → Nat
  | [] => 0
  | (key, value) :: rest => size key + size value + sizeEntries rest
termination_by structural entries => entries

end

end Node

end ColumnSelection.Yaml
