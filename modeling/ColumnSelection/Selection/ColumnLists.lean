import ColumnSelection.Selection.Basic

/-!
# Operations on lists of columns

Slices cut a list in two; those of the back count the columns from the last. `distinct` keeps the
first column of every path. `simplify` also removes columns that a group of the same list already
holds; a group rebuilt without a child does not hold it. Excluding a path from a column removes the
column with that path. A group with an excluded path below it is rebuilt from what remains of its
children, and disappears when nothing does.
-/
namespace ColumnSelection

namespace Slice

/-- The number of columns at the end of a list, counted from the last, that satisfy a predicate. -/
def trailing (p : Predicate) (columns : List Column) : Nat :=
  (columns.reverse.takeWhile fun c => p.holds c).length

/-- The columns of a list that belong to the slice. -/
def apply (part : Slice) (columns : List Column) : List Column :=
  match part with
  | .take n => columns.take n
  | .takeLast n => columns.drop (columns.length - n)
  | .drop n => columns.drop n
  | .dropLast n => columns.take (columns.length - n)
  | .takeWhile p => columns.takeWhile fun c => p.holds c
  | .takeLastWhile p => columns.drop (columns.length - trailing p columns)
  | .dropWhile p => columns.dropWhile fun c => p.holds c
  | .dropLastWhile p => columns.take (columns.length - trailing p columns)

end Slice

/-- The columns whose path is neither in `seen` nor that of an earlier column. -/
def distinctFrom (seen : List Path) : List Column → List Column
  | [] => []
  | c :: rest =>
    if c.path ∈ seen then distinctFrom seen rest else c :: distinctFrom (c.path :: seen) rest

/-- The first column of every path. -/
def distinct (columns : List Column) : List Column :=
  distinctFrom [] columns

namespace Column

/-- Whether the column is a group that holds a column at this path, strictly below its own. -/
def covers (c : Column) (p : Path) : Bool :=
  c.path.isAncestorOf p &&
    ((p.segments.drop c.path.length).foldlM Column.child? c).isSome

end Column

/-- The first column of every path, without the columns held by another. -/
def simplify (columns : List Column) : List Column :=
  (distinct columns).filter fun c => !(distinct columns).any (·.covers c.path)

namespace Column

mutual

/-- What remains of a column when the given paths are excluded. -/
def exclude? (excluded : List Path) : Column → Option Column
  | .value l t => if l.path ∈ excluded then none else some (.value l t)
  | .frame l s => if l.path ∈ excluded then none else some (.frame l s)
  | .group l cs =>
    if l.path ∈ excluded then none
    else if excluded.any l.path.isAncestorOf then
      match excludeAll excluded cs with
      | [] => none
      | c :: rest => some (.group l (c :: rest))
    else some (.group l cs)
termination_by structural c => c

/-- What remains of the columns of a list, in order. -/
def excludeAll (excluded : List Path) : List Column → List Column
  | [] => []
  | c :: rest =>
    match exclude? excluded c with
    | none => excludeAll excluded rest
    | some d => d :: excludeAll excluded rest
termination_by structural cs => cs

end

theorem excludeAll_eq_filterMap (excluded : List Path) (cs : List Column) :
    excludeAll excluded cs = cs.filterMap (exclude? excluded) := by
  induction cs with
  | nil => rfl
  | cons c rest ih =>
    rw [excludeAll, List.filterMap_cons, ih]
    cases exclude? excluded c <;> rfl

end Column

/-- The columns of a list without the excluded paths. -/
def exceptColumns (columns : List Column) (excluded : List Path) : List Column :=
  Column.excludeAll excluded columns

end ColumnSelection
