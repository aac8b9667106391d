import ColumnSelection.Json.Basic
import ColumnSelection.Text.Pieces

/-!
# Writing JSON

The compact form has no blanks; the indented form puts every item on a line of its own. Strings
escape the quotation mark, the backslash and the control characters below the blank, nothing
else.
-/
namespace ColumnSelection.Json

/-- Floats are positional from 10^-5 up to below 10^16, and a positive exponent has its sign. -/
def floatLayout : Numeric.FloatLayout := ⟨-5, 15, true⟩

/-- A lower-case hexadecimal digit. -/
def hexChar (n : Nat) : Char :=
  if n < 10 then Char.ofNat (48 + n) else Char.ofNat (87 + n)

/-- One character as it stands inside a written string. -/
def escapeChar (c : Char) : List Char :=
  if c = '"' then ['\\', '"']
  else if c = '\\' then ['\\', '\\']
  else if c = '\x08' then ['\\', 'b']
  else if c = '\x0c' then ['\\', 'f']
  else if c = '\n' then ['\\', 'n']
  else if c = '\r' then ['\\', 'r']
  else if c = '\t' then ['\\', 't']
  else if c.toNat < 0x20 then ['\\', 'u', '0', '0', hexChar (c.toNat / 16), hexChar (c.toNat % 16)]
  else [c]

/-- A string between quotation marks. -/
def quote (s : String) : String :=
  "\"" ++ String.ofList (s.toList.flatMap escapeChar) ++ "\""

mutual

/-- The compact text of a value. -/
def compact : Json → String
  | .arr items => "[" ++ Text.join "," (compactItems items) ++ "]"
  | .obj fields => "\x7b" ++ Text.join "," (compactFields fields) ++ "\x7d"
  | .null => "null"
  | .bool b => if b then "true" else "false"
  | .int n => toString n
  | .float x => x.spell floatLayout
  | .str s => quote s
termination_by structural j => j

/-- The compact texts of the items of an array. -/
def compactItems : List Json → List String
  | [] => []
  | j :: rest => compact j :: compactItems rest
termination_by structural items => items

/-- The compact texts of the entries of an object. -/
def compactFields : List (String × Json) → List String
  | [] => []
  | (k, j) :: rest => (quote k ++ ":" ++ compact j) :: compactFields rest
termination_by structural fields => fields

end

/-- A line feed and the blanks that open a line at this depth. -/
def newline (depth : Nat) : String :=
  "\n" ++ "".pushn ' ' (2 * depth)

/-- Texts on lines of their own between two brackets; without any the brackets stand together. -/
def bracketed (depth : Nat) (opening closing : String) (texts : List String) : String :=
  if texts.isEmpty then opening ++ closing
  else
    opening ++ newline (depth + 1) ++ Text.join ("," ++ newline (depth + 1)) texts ++
      newline depth ++ closing

mutual

/-- The text of a value with two blanks of indentation for each level. -/
def indented (depth : Nat) : Json → String
  | .arr items => bracketed depth "[" "]" (indentedItems (depth + 1) items)
  | .obj fields => bracketed depth "\x7b" "\x7d" (indentedFields (depth + 1) fields)
  | .null => compact .null
  | .bool b => compact (.bool b)
  | .int n => compact (.int n)
  | .float x => compact (.float x)
  | .str s => compact (.str s)
termination_by structural j => j

/-- The indented texts of the items of an array. -/
def indentedItems (depth : Nat) : List Json → List String
  | [] => []
  | j :: rest => indented depth j :: indentedItems depth rest
termination_by structural items => items

/-- The indented texts of the entries of an object. -/
def indentedFields (depth : Nat) : List (String × Json) → List String
  | [] => []
  | (k, j) :: rest => (quote k ++ ": " ++ indented depth j) :: indentedFields depth rest
termination_by structural fields => fields

end

/-- The indented text of a whole document. -/
def pretty (j : Json) : String :=
  indented 0 j

end ColumnSelection.Json
