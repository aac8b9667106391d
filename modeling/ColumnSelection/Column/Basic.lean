import ColumnSelection.Column.Path
import ColumnSelection.Column.DataType

/-!
# Columns

A column is a leaf with a declared type, a group of further columns, or a frame, whose cells are
nested tables with a schema of their own. The identity of a column is its path; a display name
may be attached without changing it.
-/
namespace ColumnSelection

/-- What every column carries: its own name, its path, and the display name attached to it. -/
structure Label where
  name : String
  path : Path
  shownAs : Option String := none
deriving DecidableEq, Repr, Inhabited

namespace Label

/-- The label of a column at the top of a table. -/
def top (name : String) : Label :=
  ⟨name, ⟨[name]⟩, none⟩

/-- The name in projected output. -/
def displayName (l : Label) : String :=
  l.shownAs.getD l.name

/-- The label moved below a parent. -/
def under (parent : Path) (l : Label) : Label :=
  { l with path := parent.child l.name }

/-- The label in a projected table: the display name becomes the name. -/
def settled (parent : Path) (l : Label) : Label :=
  ⟨l.displayName, parent.child l.displayName, none⟩

end Label

inductive Column where
  | value (label : Label) (type : DataType)
  | group (label : Label) (children : List Column)
  | frame (label : Label) (schema : List Column)
deriving Repr, Inhabited

namespace Column

mutual

/-- Induction over a column, with the hypothesis for each child and each schema column. -/
theorem induct {motive : Column → Prop} (value : ∀ l t, motive (.value l t))
    (group : ∀ l cs, (∀ c ∈ cs, motive c) → motive (.group l cs))
    (frame : ∀ l cs, (∀ c ∈ cs, motive c) → motive (.frame l cs)) : ∀ c, motive c
  | .value l t => value l t
  | .group l cs => group l cs (inductAll value group frame cs)
  | .frame l cs => frame l cs (inductAll value group frame cs)
termination_by structural c => c

/-- Induction over the columns of a list. -/
theorem inductAll {motive : Column → Prop} (value : ∀ l t, motive (.value l t))
    (group : ∀ l cs, (∀ c ∈ cs, motive c) → motive (.group l cs))
    (frame : ∀ l cs, (∀ c ∈ cs, motive c) → motive (.frame l cs)) :
    ∀ cs : List Column, ∀ c ∈ cs, motive c
  | [], _, h => absurd h List.not_mem_nil
  | c :: rest, d, h =>
    match List.mem_cons.1 h with
    | .inl e => e ▸ induct value group frame c
    | .inr h => inductAll value group frame rest d h
termination_by structural cs => cs

end

def label : Column → Label
  | .value l _ => l
  | .group l _ => l
  | .frame l _ => l

def name (c : Column) : String := c.label.name

def path (c : Column) : Path := c.label.path

def shownAs (c : Column) : Option String := c.label.shownAs

/-- The name in projected output: the display name where one is attached. -/
def displayName (c : Column) : String := c.label.displayName

def kind : Column → Kind
  | .value .. => .value
  | .group .. => .group
  | .frame .. => .frame

def isValue (c : Column) : Bool := c.kind == .value

def isGroup (c : Column) : Bool := c.kind == .group

def isFrame (c : Column) : Bool := c.kind == .frame

/-- The columns directly below a group; leaves and frames have none. -/
def children : Column → List Column
  | .group _ cs => cs
  | _ => []

/-- The columns of the nested tables of a frame. -/
def schema? : Column → Option (List Column)
  | .frame _ s => some s
  | _ => none

/-- The declared type; groups have none. -/
def type? : Column → Option DataType
  | .value _ t => some t
  | .frame .. => some .frame
  | .group .. => none

/-- The first child with this name. -/
def child? (c : Column) (name : String) : Option Column :=
  c.children.find? (·.name == name)

/-- The same column with another label. -/
def withLabel (l : Label) : Column → Column
  | .value _ t => .value l t
  | .group _ cs => .group l cs
  | .frame _ s => .frame l s

/-- A group with the label of this column and the given children. -/
def withChildren (c : Column) (children : List Column) : Column :=
  .group c.label children

/-- The same column under a display name. -/
def named (c : Column) (shown : String) : Column :=
  c.withLabel { c.label with shownAs := some shown }

mutual

/-- Moves a column, with the columns below it, beneath a parent. -/
def rebase (parent : Path) : Column → Column
  | .value l t => .value (l.under parent) t
  | .group l cs => .group (l.under parent) (rebaseAll (parent.child l.name) cs)
  | .frame l s => .frame (l.under parent) s
termination_by structural c => c

/-- Moves the columns of a list beneath a parent. -/
def rebaseAll (parent : Path) : List Column → List Column
  | [] => []
  | c :: rest => rebase parent c :: rebaseAll parent rest
termination_by structural cs => cs

end

@[simp] theorem rebaseAll_eq_map (parent : Path) (cs : List Column) :
    rebaseAll parent cs = cs.map (rebase parent) := by
  induction cs with
  | nil => rfl
  | cons c rest ih => simp [rebaseAll, ih]

mutual

/-- The column beneath a parent with every display name made the name. -/
def settle (parent : Path) : Column → Column
  | .value l t => .value (l.settled parent) t
  | .group l cs => .group (l.settled parent) (settleAll (parent.child l.displayName) cs)
  | .frame l s => .frame (l.settled parent) s
termination_by structural c => c

/-- Settles the columns of a list beneath a parent. -/
def settleAll (parent : Path) : List Column → List Column
  | [] => []
  | c :: rest => settle parent c :: settleAll parent rest
termination_by structural cs => cs

end

@[simp] theorem settleAll_eq_map (parent : Path) (cs : List Column) :
    settleAll parent cs = cs.map (settle parent) := by
  induction cs with
  | nil => rfl
  | cons c rest ih => simp [settleAll, ih]

/-- The column as it appears at the top of a projected table. -/
def materialize (c : Column) : Column :=
  c.settle .root

/-- A leaf at the top of a table. -/
def topValue (name : String) (type : DataType) : Column :=
  .value (.top name) type

/-- A group at the top of a table; the children are moved beneath it. -/
def topGroup (name : String) (children : List Column) : Column :=
  .group (.top name) (children.map (rebase ⟨[name]⟩))

/-- A frame at the top of a table; its schema is rooted at the nested table. -/
def topFrame (name : String) (schema : List Column) : Column :=
  .frame (.top name) (schema.map (rebase .root))

mutual

/-- A column and the columns below it through groups, each before those below it. -/
def preorder : Column → List Column
  | .value l t => [.value l t]
  | .group l cs => .group l cs :: preorderAll cs
  | .frame l s => [.frame l s]
termination_by structural c => c

/-- The columns of a list, each followed by the columns below it. -/
def preorderAll : List Column → List Column
  | [] => []
  | c :: rest => preorder c ++ preorderAll rest
termination_by structural cs => cs

end

@[simp] theorem preorderAll_eq_flatMap (cs : List Column) :
    preorderAll cs = cs.flatMap preorder := by
  induction cs with
  | nil => rfl
  | cons c rest ih => simp [preorderAll, ih]

theorem preorder_eq (c : Column) : c.preorder = c :: preorderAll c.children := by
  cases c <;> simp [preorder, children]

mutual

/-- Every child of a group, at every depth, has the path of the group with its own name added. -/
def Anchored : Column → Prop
  | .value .. => True
  | .group l cs => AnchoredAll l.path cs
  | .frame .. => True
termination_by structural c => c

/-- The columns of a list have the path of a parent with their own names added, and so on
below them. -/
def AnchoredAll (parent : Path) : List Column → Prop
  | [] => True
  | c :: rest => c.path = parent.child c.name ∧ Anchored c ∧ AnchoredAll parent rest
termination_by structural cs => cs

end

end Column

end ColumnSelection
