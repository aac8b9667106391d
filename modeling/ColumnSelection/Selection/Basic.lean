import ColumnSelection.Column.Tree
import ColumnSelection.Selection.Predicate

/-!
# Selection expressions

A selection describes an ordered list of columns without naming a tree. It is resolved against a
tree later, as often as needed.
-/
namespace ColumnSelection

/-- A way of naming a column, or columns already at hand. -/
inductive Reference where
  /-- A text in which the names of nested columns are separated by the configured character. -/
  | name (text : String)
  | path (path : Path)
  /-- A path to a column whose type must lie below the given one. -/
  | typed (path : Path) (type : DataType)
  | resolved (columns : List Column)
deriving Inhabited

/-- A part of a list, by count or by the columns at one end. Counts beyond the end are cut. -/
inductive Slice where
  | take (count : Nat)
  | takeLast (count : Nat)
  | drop (count : Nat)
  | dropLast (count : Nat)
  | takeWhile (p : Predicate)
  | takeLastWhile (p : Predicate)
  | dropWhile (p : Predicate)
  | dropLastWhile (p : Predicate)

/-- Which one column is picked. -/
inductive Choice where
  | first
  | last
  /-- The only one. -/
  | single
deriving DecidableEq, Repr

inductive Selection where
  /-- The columns directly in the scope, in their declared order. -/
  | all
  | columns (references : List Reference)
  /-- Columns directly in the scope by their position, counted from zero. -/
  | positions (indices : List Nat)
  /-- Columns directly in the scope that satisfy a predicate. -/
  | satisfying (p : Predicate)
  /-- Columns at every depth of groups that satisfy a predicate. -/
  | anyDepth (p : Predicate)
  /-- A selection with each group of the reference as its scope. -/
  | within (group : Reference) (inner : Selection)
  /-- The columns of one selection followed by those of another, repetitions kept. -/
  | and (left right : Selection)
  /-- The columns of one selection without those of another; groups are rebuilt. -/
  | except (source exclusion : Selection)
  | slice (source : Selection) (part : Slice)
  | filter (source : Selection) (p : Predicate)
  /-- Repeated paths removed. -/
  | distinct (source : Selection)
  /-- Repeated paths and columns held by a selected group removed. -/
  | simplify (source : Selection)
  /-- The children of every group in the selection. -/
  | groupChildren (source : Selection)
  /-- One column, among those that satisfy the predicate if there is one. -/
  | pick (source : Selection) (choice : Choice) (p : Option Predicate)
  /-- The one column of the selection under a display name. -/
  | named (source : Selection) (shown : String)
deriving Inhabited

namespace Selection

/-- Columns directly in the scope with a type below the given one. -/
def ofType (type : DataType) : Selection :=
  .satisfying (.typeBelow type)

/-- Columns directly in the scope of one of the given kinds. -/
def ofKinds (kinds : List Kind) : Selection :=
  .satisfying (.kindIn kinds)

/-- The columns of the scope without those of a selection. -/
def allExcept (exclusion : Selection) : Selection :=
  .except .all exclusion

/-- The columns of a group without those of a selection made inside it. -/
def groupExcept (group : Reference) (exclusion : Selection) : Selection :=
  .within group (allExcept exclusion)

end Selection

end ColumnSelection
