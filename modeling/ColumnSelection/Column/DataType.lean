import ColumnSelection.Failure
import ColumnSelection.Text.Pieces
import ColumnSelection.Text.Search

/-!
# Element types and column kinds

Base types are ordered by inclusion: `any` lies above all, `number` above `int` and `float`. A
declared type adds whether nulls are accepted.
-/
namespace ColumnSelection

/-- The base types of cells. -/
inductive BaseType where
  | any
  | number
  | int
  | float
  | bool
  | string
  | list
  | frame
deriving DecidableEq, Repr, Inhabited

namespace BaseType

/-- The word for a base type. -/
def text : BaseType → String
  | .any => "any"
  | .number => "number"
  | .int => "int"
  | .float => "float"
  | .bool => "bool"
  | .string => "string"
  | .list => "list"
  | .frame => "frame"

/-- All base types in the order of their declaration. -/
def all : List BaseType :=
  [.any, .number, .int, .float, .bool, .string, .list, .frame]

/-- The base type with this word. -/
def ofText? (word : String) : Option BaseType :=
  all.find? (·.text == word)

theorem ofText?_text (b : BaseType) : ofText? b.text = some b := by
  cases b <;> decide

/-- Inclusion of base types. -/
def isSubtypeOf (a b : BaseType) : Bool :=
  b == .any || a == b || (b == .number && (a == .int || a == .float))

/-- The smallest base type above two others. -/
def widen (a b : BaseType) : BaseType :=
  if a.isSubtypeOf b then b
  else if b.isSubtypeOf a then a
  else if a.isSubtypeOf .number && b.isSubtypeOf .number then .number
  else .any

@[simp] theorem isSubtypeOf_refl (a : BaseType) : a.isSubtypeOf a = true := by
  cases a <;> rfl

theorem isSubtypeOf_trans {a b c : BaseType} (hab : a.isSubtypeOf b) (hbc : b.isSubtypeOf c) :
    a.isSubtypeOf c := by
  revert hab hbc
  cases a <;> cases b <;> cases c <;> decide

theorem isSubtypeOf_antisymm {a b : BaseType} (hab : a.isSubtypeOf b) (hba : b.isSubtypeOf a) :
    a = b := by
  revert hab hba
  cases a <;> cases b <;> decide

/-- Widening is the least upper bound of inclusion. -/
theorem widen_isSubtypeOf_iff (a b c : BaseType) :
    (a.widen b).isSubtypeOf c ↔ a.isSubtypeOf c ∧ b.isSubtypeOf c := by
  cases a <;> cases b <;> cases c <;> decide

end BaseType

/-- A declared type of cells. -/
structure DataType where
  base : BaseType
  nullable : Bool := false
deriving DecidableEq, Repr, Inhabited

namespace DataType

/-- The type of whole nested tables. -/
def frame : DataType := ⟨.frame, false⟩

/-- The same base type, accepting nulls. -/
def orNull (t : DataType) : DataType :=
  { t with nullable := true }

/-- Inclusion of types; one that accepts nulls lies only below types that do. -/
def isSubtypeOf (s t : DataType) : Bool :=
  s.base.isSubtypeOf t.base && (!s.nullable || t.nullable)

/-- The smallest type above two others. -/
def widen (s t : DataType) : DataType :=
  ⟨s.base.widen t.base, s.nullable || t.nullable⟩

/-- The word for the base type, with a question mark when nulls are accepted. -/
def text (t : DataType) : String :=
  if t.nullable then t.base.text ++ "?" else t.base.text

/-- Other words for base types. -/
def synonyms : List (String × BaseType) :=
  [("integer", .int), ("long", .int), ("double", .float), ("boolean", .bool), ("str", .string),
    ("array", .list)]

/-- The base type that a word names, synonyms included. -/
def baseOfWord? (word : String) : Option BaseType :=
  match BaseType.ofText? word with
  | some base => some base
  | none => synonyms.lookup word

/-- Reads a type: blanks around it are dropped, letter case in ASCII does not matter, and a
question mark at the end accepts nulls. -/
def parse (text : String) : Except Failure DataType :=
  let chars := (Text.trim text).toList
  let nullable := chars.getLast? == some '?'
  let word := Text.lowerAscii (String.ofList (if nullable then chars.dropLast else chars))
  match baseOfWord? word with
  | some base => .ok ⟨base, nullable⟩
  | none => .error (.validation (.unknownType word))

end DataType

/-- What a column can hold: cells, further columns, or nested tables. -/
inductive Kind where
  | value
  | group
  | frame
deriving DecidableEq, Repr, Inhabited

namespace Kind

/-- The word for a kind. -/
def text : Kind → String
  | .value => "value"
  | .group => "group"
  | .frame => "frame"

/-- All kinds in the order of their declaration. -/
def all : List Kind :=
  [.value, .group, .frame]

/-- The kind with this word. -/
def ofText? (word : String) : Option Kind :=
  all.find? (·.text == word)

theorem ofText?_text (k : Kind) : ofText? k.text = some k := by
  cases k <;> decide

/-- Reads a kind; blanks around it and letter case in ASCII do not matter. -/
def parse (text : String) : Except Failure Kind :=
  let word := Text.lowerAscii (Text.trim text)
  if word = "column_group" then .ok .group
  else if word = "frame_column" then .ok .frame
  else match ofText? word with
    | some kind => .ok kind
    | none => .error (.validation (.unknownKind word))

end Kind

end ColumnSelection
