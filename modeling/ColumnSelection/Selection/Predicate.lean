import ColumnSelection.Column.Basic
import ColumnSelection.Pattern.Basic
import ColumnSelection.Text.Search

/-!
# Column predicates

Boolean conditions on the name, the kind and the declared type of a column. Conditions on names
look at the column's own name only. Any test of columns can be used as a predicate.
-/
namespace ColumnSelection

inductive Predicate where
  | any
  | nameEquals (text : String) (ignoreCase : Bool)
  | nameContains (text : String) (ignoreCase : Bool)
  | nameStartsWith (text : String) (ignoreCase : Bool)
  | nameEndsWith (text : String) (ignoreCase : Bool)
  | nameMatches (pattern : Pattern)
  | kindIn (kinds : List Kind)
  /-- The declared type lies below the given one; groups have none. -/
  | typeBelow (type : DataType)
  | not (p : Predicate)
  | allOf (ps : List Predicate)
  | anyOf (ps : List Predicate)
  | custom (test : Column → Bool)
deriving Inhabited

namespace Predicate

/-- Compares two texts, both in lower case when letter case does not matter. -/
def compareText (test : String → String → Bool) (ignoreCase : Bool) (s t : String) : Bool :=
  if ignoreCase then test (Text.lower s) (Text.lower t) else test s t

mutual

/-- Whether a column satisfies the predicate. -/
def holds (c : Column) : Predicate → Bool
  | .any => true
  | .nameEquals text ignoreCase => compareText (· == ·) ignoreCase c.name text
  | .nameContains text ignoreCase => compareText Text.contains ignoreCase c.name text
  | .nameStartsWith text ignoreCase => compareText Text.startsWith ignoreCase c.name text
  | .nameEndsWith text ignoreCase => compareText Text.endsWith ignoreCase c.name text
  | .nameMatches pattern => pattern.isMatch c.name
  | .kindIn kinds => kinds.contains c.kind
  | .typeBelow type =>
    match c.type? with
    | some declared => declared.isSubtypeOf type
    | none => false
  | .not p => !holds c p
  | .allOf ps => allHold c ps
  | .anyOf ps => anyHolds c ps
  | .custom test => test c
termination_by structural p => p

/-- Whether a column satisfies all predicates of a list. -/
def allHold (c : Column) : List Predicate → Bool
  | [] => true
  | p :: rest => holds c p && allHold c rest
termination_by structural ps => ps

/-- Whether a column satisfies some predicate of a list. -/
def anyHolds (c : Column) : List Predicate → Bool
  | [] => false
  | p :: rest => holds c p || anyHolds c rest
termination_by structural ps => ps

end

@[simp] theorem allHold_eq_all (c : Column) (ps : List Predicate) :
    allHold c ps = ps.all (holds c) := by
  induction ps with
  | nil => rfl
  | cons p rest ih => simp [allHold, ih]

@[simp] theorem anyHolds_eq_any (c : Column) (ps : List Predicate) :
    anyHolds c ps = ps.any (holds c) := by
  induction ps with
  | nil => rfl
  | cons p rest ih => simp [anyHolds, ih]

end Predicate

end ColumnSelection
