import ColumnSelection.Selection.ColumnLists
import ColumnSelection.Selection.Scope

/-!
# Resolving selections

The columns that a selection stands for in a scope. Resolution depends on nothing but the
expression and the scope; repeated columns are kept unless the expression removes them.
-/
namespace ColumnSelection

namespace Scope

/-- Follows names downwards, from the columns of the scope or from a column already reached;
`whole` is the path that failures and notices speak of. -/
def walk (s : Scope) (whole : Path) (reached : Option Column) :
    List String → Logged (List Column)
  | [] => .ok reached.toList
  | name :: rest =>
    match reached with
    | none =>
      match s.columns.find? (·.name == name) with
      | some c => walk s whole (some c) rest
      | none => s.unresolved whole.text s.path
    | some parent =>
      if parent.isGroup then
        match parent.child? name with
        | some c => walk s whole (some c) rest
        | none => s.unresolved whole.text parent.path
      else .fail (.notAGroup parent.path.text)

/-- The column at a path below the scope. -/
def atPath (s : Scope) (p : Path) : Logged (List Column) :=
  if p.isRoot then .fail (.validation .emptyReference) else s.walk p none p.segments

end Scope

namespace Column

/-- Whether the declared type lies below another; groups have none. -/
def fits (c : Column) (type : DataType) : Bool :=
  match c.type? with
  | some declared => declared.isSubtypeOf type
  | none => false

/-- The text of the declared type, or of the kind where there is none. -/
def typeText (c : Column) : String :=
  match c.type? with
  | some declared => declared.text
  | none => c.kind.text

mutual

/-- A column if it satisfies a predicate, and behind it those below it through groups that do. -/
def search (p : Predicate) : Column → List Column
  | .value l t => if p.holds (.value l t) then [.value l t] else []
  | .group l cs =>
    if p.holds (.group l cs) then .group l cs :: searchAll p cs else searchAll p cs
  | .frame l s => if p.holds (.frame l s) then [.frame l s] else []
termination_by structural c => c

/-- The columns of a list that satisfy a predicate, each followed by those below it that do. -/
def searchAll (p : Predicate) : List Column → List Column
  | [] => []
  | c :: rest => search p c ++ searchAll p rest
termination_by structural cs => cs

end

mutual

/-- A search on the way down finds what a search of the whole pre-order finds. -/
theorem search_eq_filter (p : Predicate) :
    ∀ c, search p c = c.preorder.filter fun d => p.holds d
  | .value l t => by rw [search, preorder, List.filter_cons, List.filter_nil]
  | .frame l s => by rw [search, preorder, List.filter_cons, List.filter_nil]
  | .group l cs => by rw [search, preorder, List.filter_cons, searchAll_eq_filter p cs]

@[inherit_doc search_eq_filter]
theorem searchAll_eq_filter (p : Predicate) :
    ∀ cs, searchAll p cs = (preorderAll cs).filter fun d => p.holds d
  | [] => rfl
  | c :: rest => by
    rw [searchAll, preorderAll, List.filter_append, search_eq_filter p c,
      searchAll_eq_filter p rest]

end

end Column

/-- The columns named by a reference. -/
def Reference.resolve (r : Reference) (s : Scope) : Logged (List Column) :=
  match r with
  | .name text => do
    let p ← Logged.ofExcept (Path.parse text s.settings.separator)
    s.atPath p
  | .path p => s.atPath p
  | .typed p type => do
    let columns ← s.atPath p
    match columns.find? fun c => !c.fits type with
    | some c => Logged.fail (.typeMismatch c.path.text type.text c.typeText)
    | none => return columns
  | .resolved columns => .ok columns

/-- The words for the column that a choice looks for. -/
def Choice.sought : Choice → String
  | .first => "first column"
  | .last => "last column"
  | .single => "single column"

/-- Picks one column of a list. -/
def Choice.apply (choice : Choice) (columns : List Column) (scope : Path) :
    Except Failure (List Column) :=
  let picked := match choice with
    | .first => columns.head?
    | .last | .single => columns.getLast?
  if choice = .single ∧ columns.length ≠ 1 then .error (.ambiguous columns.length)
  else match picked with
    | some c => .ok [c]
    | none => .error (.missingColumn choice.sought scope.text)

namespace Selection

/-- The column at a position of the scope. -/
def atIndex (s : Scope) (i : Nat) : Logged (List Column) :=
  match s.columns[i]? with
  | some c => .ok [c]
  | none => s.unresolved s!"#{i}" s.path

/-- Resolves a selection in a scope. -/
def resolve (s : Scope) : Selection → Logged (List Column)
  | .all => .ok s.columns
  | .columns references => Logged.collect (·.resolve s) references
  | .positions indices => Logged.collect (atIndex s) indices
  | .satisfying p => .ok (s.columns.filter fun c => p.holds c)
  | .anyDepth p => .ok (Column.searchAll p s.columns)
  | .within group inner => do
    let groups ← group.resolve s
    Logged.collect (fun g => do
      let below ← Logged.ofExcept (s.descend g)
      resolve below inner) groups
  | .and left right => do
    let front ← resolve s left
    let back ← resolve s right
    return front ++ back
  | .except source exclusion => do
    let columns ← resolve s source
    let excluded ← resolve s exclusion
    return ColumnSelection.distinct (exceptColumns columns (excluded.map Column.path))
  | .slice source part => do
    let columns ← resolve s source
    return part.apply columns
  | .filter source p => do
    let columns ← resolve s source
    return columns.filter fun c => p.holds c
  | .distinct source => do
    let columns ← resolve s source
    return ColumnSelection.distinct columns
  | .simplify source => do
    let columns ← resolve s source
    return ColumnSelection.simplify columns
  | .groupChildren source => do
    let columns ← resolve s source
    return columns.flatMap Column.children
  | .pick source choice p => do
    let columns ← resolve s source
    let candidates := match p with
      | some p => columns.filter fun c => p.holds c
      | none => columns
    Logged.ofExcept (choice.apply candidates s.path)
  | .named source shown => do
    let columns ← resolve s source
    match columns with
    | [c] => return [c.named shown]
    | _ => Logged.fail (.ambiguous columns.length)

theorem resolve_anyDepth (s : Scope) (p : Predicate) :
    resolve s (.anyDepth p) = .ok ((Column.preorderAll s.columns).filter fun c => p.holds c) := by
  rw [resolve, Column.searchAll_eq_filter]

end Selection

/-- Resolves a selection at the root of a tree. -/
def Tree.select (t : Tree) (selection : Selection) (settings : Settings) :
    Logged (List Column) :=
  selection.resolve { tree := t, settings := settings }

end ColumnSelection
