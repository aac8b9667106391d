import ColumnSelection.Selection.Resolve
import ColumnSelection.Table.Inference

/-!
# Tables

A table is a tree of columns with its rows. Projecting a table onto columns writes every row
anew, in the order of the columns and under their display names.
-/
namespace ColumnSelection

structure Table where
  tree : Tree
  records : List Record

namespace Record

mutual

/-- The projected cell of a column. A group is written anew from its children unless its cell is
null or missing. -/
def projectCell (r : Record) : Column → Json
  | .value l _ => (r.valueAt l.path).getD .null
  | .frame l _ => (r.valueAt l.path).getD .null
  | .group l cs =>
    match r.valueAt l.path with
    | none | some .null => .null
    | some _ => .obj (Entries.ofList (projectCells r cs))
termination_by structural c => c

/-- The projected cells of the columns of a list, under their display names. -/
def projectCells (r : Record) : List Column → List (String × Json)
  | [] => []
  | c :: rest => (c.displayName, projectCell r c) :: projectCells r rest
termination_by structural cs => cs

end

@[simp] theorem projectCells_eq_map (r : Record) (cs : List Column) :
    r.projectCells cs = cs.map fun c => (c.displayName, r.projectCell c) := by
  induction cs with
  | nil => rfl
  | cons c rest ih => simp [projectCells, ih]

/-- The record with just the given columns. -/
def project (r : Record) (columns : List Column) : Record :=
  ⟨r.id, .obj (Entries.ofList (r.projectCells columns))⟩

end Record

namespace Table

/-- The table of a batch, with the columns found in its rows. -/
def ofRecords (records : List Record) : Except Failure Table := do
  return ⟨← Tree.infer records, records⟩

/-- The names of the columns at the top, in order. -/
def columnNames (t : Table) : List String :=
  t.tree.columns.map Column.name

/-- The first display name that an earlier column of the list has too. -/
def repeatedName? (seen : List String) : List Column → Option String
  | [] => none
  | c :: rest =>
    if c.displayName ∈ seen then some c.displayName
    else repeatedName? (c.displayName :: seen) rest

/-- The table that holds exactly the given columns. -/
def project (t : Table) (columns : List Column) : Except Failure Table :=
  match repeatedName? [] columns with
  | some name => .error (.schema (.repeatedOutput name))
  | none => do
    let tree ← Tree.build (columns.map Column.materialize)
    return ⟨tree, t.records.map (·.project columns)⟩

/-- The table that holds the columns of a selection. -/
def select (t : Table) (selection : Selection) (settings : Settings) : Logged Table := do
  let columns ← t.tree.select selection settings
  Logged.ofExcept (t.project columns)

end Table

end ColumnSelection
