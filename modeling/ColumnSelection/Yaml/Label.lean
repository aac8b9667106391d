import ColumnSelection.Unicode.Ranges
import ColumnSelection.Yaml.Cursor

/-!
# Anchors, tags and directives

The names that nodes are marked with, and the lines in front of a document that say how its tags
are to be read.
-/
namespace ColumnSelection.Yaml

open Unicode (hexDigit?)

/-- Reads the name of an anchor or of a reference to one. -/
def readName? (c : Cursor) : Option (String × Cursor) :=
  let (name, c) := c.span isNameChar
  let ends := ['?', ':', ',', ']', '\x7d', '%', '@', '\x60']
  if name.isEmpty || !(atGap c.rest || c.head?.any (ends.contains ·)) then none
  else some (String.ofList name, c)

/-- Whether the character may stand in a tag; within angles commas and square brackets may too. -/
def isTagChar (inAngles : Bool) (c : Char) : Bool :=
  let others :=
    [';', '/', '?', ':', '@', '&', '=', '+', '$', '.', '%', '!', '~', '*', '\'', '(', ')']
  isNameChar c || others.contains c || (inAngles && [',', '[', ']'].contains c)

/-- Reads a byte written as a percent sign and two hexadecimal digits. -/
def readByte? (c : Cursor) : Option (Nat × Cursor) :=
  match c.rest with
  | '%' :: high :: low :: _ => do
    return ((← hexDigit? high) * 16 + (← hexDigit? low), c.skip 3)
  | _ => none

/-- Reads the given number of further bytes of a character in UTF-8. -/
def readTrailingBytes? (value : Nat) : Nat → Cursor → Option (Nat × Cursor)
  | 0, c => some (value, c)
  | n + 1, c => do
    let (byte, c) ← readByte? c
    if byte / 64 = 2 then readTrailingBytes? (value * 64 + byte % 64) n c else none

/-- Reads a character whose bytes in UTF-8 are written as hexadecimal digits. -/
def readEscapedChar? (c : Cursor) : Option (Char × Cursor) := do
  let (first, c) ← readByte? c
  let (value, count) ←
    if first < 0x80 then some (first, 0)
    else if first / 32 = 6 then some (first % 32, 1)
    else if first / 16 = 14 then some (first % 16, 2)
    else if first / 8 = 30 then some (first % 8, 3)
    else none
  let (n, c) ← readTrailingBytes? value count c
  return (Char.ofNat n, c)

/-- Reads the characters of a tag. -/
def readTagChars? (inAngles : Bool) : Nat → Cursor → Option (List Char × Cursor)
  | 0, _ => none
  | fuel + 1, c =>
    match c.head? with
    | none => some ([], c)
    | some d =>
      if !isTagChar inAngles d then some ([], c)
      else do
        let (first, c) ← if d = '%' then readEscapedChar? c else some (d, c.skip 1)
        let (more, c) ← readTagChars? inAngles fuel c
        return (first :: more, c)

/-- Reads at least one character of a tag. -/
def readTagText? (inAngles : Bool) (c : Cursor) : Option (String × Cursor) := do
  let (text, c) ← readTagChars? inAngles (c.rest.length + 1) c
  if text.isEmpty then none else return (String.ofList text, c)

/-- Reads an exclamation mark, the name behind it, and a second mark if there is one. -/
def readHandle? (c : Cursor) : Option (List Char × Bool × Cursor) :=
  if c.head? ≠ some '!' then none
  else
    let (name, c) := (c.skip 1).span isNameChar
    if c.head? = some '!' then some (name, true, c.skip 1) else some (name, false, c)

/-- Reads a tag: in angles, behind a handle, or behind a single exclamation mark, which may stand
alone. -/
def readTag? (inFlow : Bool) (c : Cursor) : Option (Token × Cursor) := do
  let (tag, c) ←
    if c.rest.take 2 = ['!', '<'] then do
      let (text, c) ← readTagText? true (c.skip 2)
      if c.head? = some '>' then some (Token.tag "" text, c.skip 1) else none
    else do
      let (name, isClosed, c) ← readHandle? c
      if isClosed then
        let (text, c) ← readTagText? false c
        some (Token.tag (String.ofList ('!' :: name ++ ['!'])) text, c)
      else
        let (more, c) ← readTagChars? false (c.rest.length + 1) c
        if name.isEmpty && more.isEmpty then some (Token.tag "" "!", c)
        else some (Token.tag "!" (String.ofList (name ++ more)), c)
  if atGap c.rest || (inFlow && c.head? == some ',') then return (tag, c) else none

/-- Reads a number of at most nine digits. -/
def readVersionNumber? (c : Cursor) : Option (Nat × Cursor) :=
  let (digits, c) := c.span Char.isDigit
  if digits.isEmpty || 9 < digits.length then none
  else some (digits.foldl (fun n d => n * 10 + (d.toNat - 48)) 0, c)

/-- Reads the version behind the name of its directive. -/
def readVersion? (c : Cursor) : Option (Token × Cursor) := do
  let (major, c) ← readVersionNumber? (c.skipWhile isBlank)
  if c.head? = some '.' then
    let (minor, c) ← readVersionNumber? (c.skip 1)
    return (.version major minor, c)
  else none

/-- Reads a handle and what it stands for behind the name of their directive. -/
def readTagHandle? (c : Cursor) : Option (Token × Cursor) := do
  let (name, isClosed, c) ← readHandle? (c.skipWhile isBlank)
  if (!isClosed && !name.isEmpty) || !c.head?.any isBlank then none
  else
    let (start, c) ← readTagText? true (c.skipWhile isBlank)
    let handle := if isClosed then '!' :: name ++ ['!'] else ['!']
    if atGap c.rest then return (.tagHandle (String.ofList handle) start, c) else none

/-- Reads a directive behind its percent sign, with the rest of its line. -/
def readDirective? (c : Cursor) : Option (Token × Cursor) := do
  let (name, c) := c.span isNameChar
  if !atGap c.rest then none
  else
    let (token, c) ← match String.ofList name with
      | "YAML" => readVersion? c
      | "TAG" => readTagHandle? c
      | _ => none
    return (token, ← c.finishLine?)

end ColumnSelection.Yaml
