import ColumnSelection.Yaml.Node
import ColumnSelection.Yaml.Scalar.Meaning

/-!
# What documents mean

The value of a document. References are followed, a limited number of times, and collections nest
to a limited depth. The keys of a mapping differ. Tags of the document's own are kept on values.
-/
namespace ColumnSelection.Yaml

/-- The nodes that references stand for; of several with one number the last counts. -/
abbrev Anchors := List (Nat × Node)

/-- A computation that counts the references it follows. -/
abbrev Following := StateT Nat Option

namespace Following

/-- The node itself, or the one that it refers to. -/
def target (anchors : Anchors) (limit : Nat) : Node → Following Node
  | .reference anchor => do
    let count := (← get) + 1
    set count
    if limit < count then failure
    else
      match anchors.reverse.lookup anchor with
      | some node => return node
      | none => failure
  | node => return node

/-- The name of a tag of the document's own, which is not empty. -/
def ownTag? (tag : Option String) : Following (Option String) :=
  match tag with
  | none => return none
  | some tag =>
    match tag.toList with
    | '!' :: rest => if rest.isEmpty then failure else return some (String.ofList rest)
    | _ => return none

/-- The value of a scalar without regard to a tag of the document's own. -/
def scalar (tag : Option String) (text : String) (isPlain : Bool) : Following Value :=
  match tag with
  | some tag => StateT.lift (taggedValue? tag text)
  | none => if isPlain then StateT.lift (plainValue? text) else return .str text

/-- The items of a mapping in order, if no key repeats. -/
def entriesOf (read : Node → Following Value) :
    List (Value × Value) → List (Node × Node) → Following (List (Value × Value))
  | done, [] => return done.reverse
  | done, (k, v) :: rest => do
    let key ← read k
    if Value.hasKey key done then failure
    else
      let value ← read v
      entriesOf read ((key, value) :: done) rest

/-- The value of a node whose collections nest to the given depth at most. -/
def value (anchors : Anchors) (limit depth : Nat) (node : Node) : Following Value := do
  let node ← target anchors limit node
  let own ← ownTag? node.marks.tag
  let commonTag := if own.isSome then none else node.marks.tag
  let content ← match node, depth with
    | .reference _, _ => failure
    | .scalar _ text isPlain, _ => scalar commonTag text isPlain
    | .sequence _ items, depth + 1 => do
      return .sequence (← items.mapM (value anchors limit depth))
    | .mapping _ entries, depth + 1 => do
      return .mapping (← entriesOf (value anchors limit depth) [] entries)
    | _, 0 => failure
  return match own with
    | some tag => .tagged tag content
    | none => content
termination_by structural depth

end Following

/-- The depth to which collections may nest. -/
def maxDepth : Nat := 128

/-- The value of a document. A hundred references may be followed for each of its parts. -/
def Node.value? (root : Node) : Option Value :=
  (Following.value root.anchored (100 * root.size) maxDepth root).run' 0

end ColumnSelection.Yaml
