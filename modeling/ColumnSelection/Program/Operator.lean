import ColumnSelection.Text.Pieces

/-!
# Operators of selection programs

Sources start a selection, refinements work on the selection built so far. An operator may be
written in camel case or with hyphens, and some have other names, the old ones among them.
-/
namespace ColumnSelection

inductive Operator where
  | all
  | col
  | cols
  | colsAt
  | colsWhere
  | colsAtAnyDepth
  | colsOf
  | colsOfKind
  | allExcept
  | within
  | allColsExcept
  | and
  | except
  | take
  | takeLast
  | drop
  | dropLast
  | takeWhile
  | takeLastWhile
  | dropWhile
  | dropLastWhile
  | filter
  | distinct
  | simplify
  | nameContains
  | nameStartsWith
  | nameEndsWith
  | nameMatches
  | colsInGroups
  | firstCol
  | lastCol
  | singleCol
  | named
deriving DecidableEq, Repr

namespace Operator

/-- The name of an operator. -/
def word : Operator → String
  | .all => "all"
  | .col => "col"
  | .cols => "cols"
  | .colsAt => "cols_at"
  | .colsWhere => "cols_where"
  | .colsAtAnyDepth => "cols_at_any_depth"
  | .colsOf => "cols_of"
  | .colsOfKind => "cols_of_kind"
  | .allExcept => "all_except"
  | .within => "in"
  | .allColsExcept => "all_cols_except"
  | .and => "and"
  | .except => "except"
  | .take => "take"
  | .takeLast => "take_last"
  | .drop => "drop"
  | .dropLast => "drop_last"
  | .takeWhile => "take_while"
  | .takeLastWhile => "take_last_while"
  | .dropWhile => "drop_while"
  | .dropLastWhile => "drop_last_while"
  | .filter => "filter"
  | .distinct => "distinct"
  | .simplify => "simplify"
  | .nameContains => "name_contains"
  | .nameStartsWith => "name_starts_with"
  | .nameEndsWith => "name_ends_with"
  | .nameMatches => "name_matches"
  | .colsInGroups => "cols_in_groups"
  | .firstCol => "first_col"
  | .lastCol => "last_col"
  | .singleCol => "single_col"
  | .named => "named"

/-- The operators that start a selection. -/
def sources : List Operator :=
  [.all, .col, .cols, .colsAt, .colsWhere, .colsAtAnyDepth, .colsOf, .colsOfKind, .allExcept,
    .within, .allColsExcept]

/-- The operators that refine a selection. -/
def refinements : List Operator :=
  [.and, .except, .take, .takeLast, .drop, .dropLast, .takeWhile, .takeLastWhile, .dropWhile,
    .dropLastWhile, .filter, .distinct, .simplify, .nameContains, .nameStartsWith, .nameEndsWith,
    .nameMatches, .colsInGroups, .firstCol, .lastCol, .singleCol, .named]

def isSource (o : Operator) : Bool :=
  sources.contains o

/-- The sources that act as filters behind another step. -/
def isFilteringSource (o : Operator) : Bool :=
  o = .colsWhere || o = .colsOf || o = .colsOfKind

theorem mem_refinements_iff (o : Operator) : o ∈ refinements ↔ o.isSource = false := by
  cases o <;> decide

/-- Old names that still work, with a notice. -/
def deprecated : List (String × Operator) :=
  [("dfs", .colsAtAnyDepth), ("all_dfs", .colsAtAnyDepth), ("recursively", .colsAtAnyDepth),
    ("rec", .colsAtAnyDepth), ("all_recursively", .colsAtAnyDepth), ("first", .firstCol),
    ("last", .lastCol), ("single", .singleCol), ("children", .colsWhere),
    ("starts_with", .nameStartsWith), ("ends_with", .nameEndsWith), ("contains", .nameContains),
    ("except_cols", .except)]

/-- Second names. -/
def synonyms : List (String × Operator) :=
  [("into", .named), ("select", .within), ("col_group", .within)]

/-- The spelling with underscores: a capital letter opens a new part unless it is the first
character, and a hyphen counts as an underscore. -/
def snakeCase : List Char → List Char
  | [] => []
  | c :: rest => letter false c ++ rest.flatMap (letter true)
where
  /-- One character of a name, at the front or behind another. -/
  letter (behind : Bool) (c : Char) : List Char :=
    if c.isUpper then (if behind then ['_', c.toLower] else [c.toLower])
    else if c = '-' then ['_']
    else [c]

/-- An operator together with whether it was written by an old name. -/
structure Name where
  operator : Operator
  deprecated : Bool
deriving DecidableEq, Repr

/-- The operator that a written name stands for. -/
def lookup (written : String) : Option Name :=
  let word := String.ofList (snakeCase (Text.trim written).toList)
  match deprecated.lookup word with
  | some o => some ⟨o, true⟩
  | none =>
    match synonyms.lookup word with
    | some o => some ⟨o, false⟩
    | none => ((sources ++ refinements).find? fun o => o.word == word).map (⟨·, false⟩)

end Operator

end ColumnSelection
