import ColumnSelection.Column.Tree
import ColumnSelection.Json.Record
import ColumnSelection.Logged

/-!
# Settings and scopes

What to do with a reference that names no column, the character that separates the names in the
text of a nested reference, and the scope of a resolution: a tree together with the group in which
references are looked up, or the root when there is none.
-/
namespace ColumnSelection

/-- What to do with a reference that names no column. -/
inductive Policy where
  /-- Abandon the resolution. -/
  | fail
  /-- Leave the reference out and go on. -/
  | skip
deriving DecidableEq, Repr, Inhabited

/-- The word for a policy. -/
def Policy.text : Policy → String
  | .fail => "fail"
  | .skip => "skip"

/-- The policy with this word. -/
def Policy.ofText? (word : String) : Option Policy :=
  [Policy.fail, .skip].find? (·.text == word)

structure Settings where
  unresolved : Policy := .fail
  separator : Char := '.'
deriving DecidableEq, Repr, Inhabited

/-- The written form of settings. -/
def Settings.toJson (s : Settings) : Json :=
  .obj [("unresolved", .str s.unresolved.text),
    ("path_separator", .str (String.singleton s.separator))]

/-- Reads a policy, which is `fail` when absent. -/
def Policy.ofJson? (j : Json) : Option Policy := do
  Policy.ofText? (← Json.word? false j)

/-- Reads a text of one character. -/
def Settings.separator? (j : Json) : Option Char := do
  let [c] := (← j.str?).toList | none
  return c

/-- Reads settings; absent fields keep their defaults. -/
def Settings.ofJson? (j : Json) : Option Settings := do
  let [unresolved, separator] ← Json.fieldsNamed? ["unresolved", "path_separator"] j | none
  let unresolved ← match unresolved with
    | some j => Policy.ofJson? j
    | none => some .fail
  let separator ← match separator with
    | some j => separator? j
    | none => some '.'
  return ⟨unresolved, separator⟩

/-- Reads settings or says that they cannot be read. -/
def Settings.ofJson (j : Json) : Except Failure Settings :=
  match Settings.ofJson? j with
  | some s => .ok s
  | none => .error (.validation .resolverSettings)

/-- Where references are looked up: in a group of a tree, or at its root when there is no group. -/
structure Scope where
  tree : Tree
  group : Option Column := none
  settings : Settings := {}

namespace Scope

/-- The path of the group, empty at the root. -/
def path (s : Scope) : Path :=
  match s.group with
  | some g => g.path
  | none => .root

/-- The columns directly in the scope. -/
def columns (s : Scope) : List Column :=
  match s.group with
  | some g => g.children
  | none => s.tree.columns

/-- The scope of a group; other columns have none. -/
def descend (s : Scope) (g : Column) : Except Failure Scope :=
  if g.isGroup then .ok { s with group := some g } else .error (.notAGroup g.path.text)

/-- What a reference without a column comes to under the policy: a failure, or no columns and a
notice. -/
def unresolved (s : Scope) (name : String) (place : Path) : Logged (List Column) :=
  match s.settings.unresolved with
  | .fail => .fail (.missingColumn name place.text)
  | .skip => do
    Logged.tell (.skipped name place.text)
    return []

end Scope

end ColumnSelection
