import ColumnSelection.Column.Basic

/-!
# Column trees

The columns of a table in their declared order. `Tree.build` admits only columns whose sibling
names are distinct at the root, in every group and at every level of every frame schema.
-/
namespace ColumnSelection

structure Tree where
  columns : List Column := []
deriving Repr, Inhabited

namespace Tree

mutual

/-- Checks the sibling names below a column. -/
def checkBelow : Column → Except Failure Unit
  | .value .. => .ok ()
  | .group l cs => checkSiblings l.path [] cs
  | .frame _ s => checkSiblings .root [] s
termination_by structural c => c

/-- Checks that the names of siblings differ from each other and from those already seen, and
the names below each sibling before going on to the next. -/
def checkSiblings (scope : Path) (seen : List String) : List Column → Except Failure Unit
  | [] => .ok ()
  | c :: rest =>
    if c.name ∈ seen then
      .error (.schema (.repeatedName c.name
        (if scope.isRoot then "table root" else s!"group '{scope.text}'")))
    else
      match checkBelow c with
      | .error e => .error e
      | .ok _ => checkSiblings scope (c.name :: seen) rest
termination_by structural cs => cs

end

/-- The tree of the given columns, moved to the root of a table. -/
def build (columns : List Column) : Except Failure Tree := do
  let columns := columns.map (Column.rebase .root)
  checkSiblings .root [] columns
  return ⟨columns⟩

/-- The column that a list of names leads to, through the children of groups. -/
def lookup (columns : List Column) : List String → Option Column
  | [] => none
  | [name] => columns.find? (·.name == name)
  | name :: more =>
    match columns.find? (·.name == name) with
    | none => none
    | some c => lookup c.children more

/-- The column with this path. -/
def find? (t : Tree) (p : Path) : Option Column :=
  lookup t.columns p.segments

/-- All columns at every depth of groups, each before those below it. -/
def depthFirst (t : Tree) : List Column :=
  Column.preorderAll t.columns

end Tree

end ColumnSelection
