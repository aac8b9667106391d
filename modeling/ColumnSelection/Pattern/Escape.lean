import ColumnSelection.Pattern.Flags
import ColumnSelection.Pattern.Property
import ColumnSelection.Pattern.Regex

/-!
# Escape sequences of patterns

What a backslash and the characters behind it stand for: a character, a class of characters, or a
condition on the position.
-/
namespace ColumnSelection.Pattern

open Unicode (hexDigit?)

/-- The meaning of an escape sequence. -/
inductive Escape where
  /-- A character; `byte` says that it is written by two hexadecimal digits. -/
  | char (c : Char) (byte : Bool)
  | short (k : ShortClass) (negated : Bool)
  /-- A named set, closed under case where the flags ask for it. -/
  | named (set : Unicode.Ranges) (negated : Bool)
  | look (condition : Look)

/-- The character with a code point. -/
def charOf? (n : Nat) : Option Char :=
  if n < 0xD800 ∨ (0xE000 ≤ n ∧ n ≤ maxPoint) then some (Char.ofNat n) else none

/-- Reads the given number of hexadecimal digits. -/
def readHexDigits? (f : Flags) (value : Nat) : Nat → List Char → Option (Nat × List Char)
  | 0, s => some (value, s)
  | n + 1, s =>
    match s with
    | [] => none
    | c :: rest => do readHexDigits? f (value * 16 + (← hexDigit? c)) n (f.skip rest)

/-- Reads the characters up to a closing brace, which is passed. `fuel` is at least their number. -/
def readBraced? (f : Flags) : Nat → List Char → Option (List Char × List Char)
  | 0, _ => none
  | fuel + 1, s =>
    match s with
    | [] => none
    | '}' :: rest => some ([], rest)
    | c :: rest => do
      let (more, after) ← readBraced? f fuel (f.skip rest)
      return (c :: more, after)

/-- Reads a character by its code point behind the letter `x`, `u` or `U`. -/
def readCodePoint? (f : Flags) (letter : Char) (s : List Char) : Option (Escape × List Char) :=
  match f.skip s with
  | '{' :: rest => do
    let (digits, after) ← readBraced? f (rest.length + 1) (f.skip rest)
    if digits.isEmpty then none
    else
      let values ← digits.mapM hexDigit?
      let c ← charOf? (values.foldl (fun n d => n * 16 + d) 0)
      return (.char c false, after)
  | s => do
    let count := if letter = 'x' then 2 else if letter = 'u' then 4 else 8
    let (n, after) ← readHexDigits? f 0 count s
    return (.char (← charOf? n) (letter = 'x'), after)

/-- Cuts a text at the first occurrence of a separator. -/
def cutAt? (separator : List Char) : List Char → Option (String × String)
  | [] => none
  | c :: rest =>
    if separator.isPrefixOf (c :: rest) then
      some ("", String.ofList ((c :: rest).drop separator.length))
    else (cutAt? separator rest).map fun (before, after) =>
      (String.singleton c ++ before, after)

/-- The set that the text between braces names, and whether the text itself negates it. -/
def bracedSet? (text : List Char) : Option (Unicode.Ranges × Bool) :=
  match cutAt? ['!', '='] text with
  | some (kind, value) => (valued? kind value).map (·, true)
  | none =>
    match (cutAt? [':'] text).or (cutAt? ['='] text) with
    | some (kind, value) => (valued? kind value).map (·, false)
    | none => (named? (String.ofList text)).map (·, false)

/-- Reads a named set behind the letter `p` or `P`. -/
def readNamedSet? (f : Flags) (negated : Bool) (s : List Char) : Option (Escape × List Char) :=
  if !f.unicode then none
  else
    match f.skip s with
    | [] => none
    | '{' :: rest => do
      let (text, after) ← readBraced? f (rest.length + 1) (f.skip rest)
      let (set, inverted) ← bracedSet? text
      return (.named set (negated != inverted), after)
    | c :: rest => do
      if c = '\\' then none
      else return (.named (← named? (String.singleton c)) negated, rest)

/-- The word boundaries with names. -/
def boundary? (unicode : Bool) (name : List Char) : Option Look :=
  match String.ofList name with
  | "start" => some (.wordStart unicode)
  | "end" => some (.wordEnd unicode)
  | "start-half" => some (.wordStartHalf unicode)
  | "end-half" => some (.wordEndHalf unicode)
  | _ => none

/-- Reads what may stand behind the letter `b`: the name of a word boundary in braces. Braces that
do not begin with a letter or a hyphen are left for a repetition. -/
def readBoundary? (f : Flags) (s : List Char) : Option (Escape × List Char) :=
  let plain := Escape.look (.wordBoundary f.unicode)
  let isNameChar := fun c : Char => c.isAlpha || c == '-'
  match s with
  | '{' :: rest =>
    match f.skip rest with
    | [] => none
    | c :: more =>
      if isNameChar c then do
        let (name, after) ← readBraced? f ((c :: more).length + 1) (c :: more)
        if name.all isNameChar then return (.look (← boundary? f.unicode name), after) else none
      else some (plain, s)
  | s => some (plain, s)

/-- The characters with a meaning of their own in patterns. -/
def isMeta (c : Char) : Bool :=
  c ∈ ['\\', '.', '+', '*', '?', '(', ')', '|', '[', ']', '\x7b', '\x7d', '^', '$', '#', '&', '-',
    '~']

/-- Whether the character stands for itself behind a backslash. -/
def isEscapable (c : Char) : Bool :=
  isMeta c || (c.toNat < 0x80 && !c.isAlphanum && c ≠ '<' && c ≠ '>')

/-- Reads an escape sequence behind its backslash. -/
def readEscape? (f : Flags) (s : List Char) : Option (Escape × List Char) :=
  match s with
  | [] => none
  | c :: rest =>
    if c = 'x' ∨ c = 'u' ∨ c = 'U' then readCodePoint? f c rest
    else if c = 'p' ∨ c = 'P' then readNamedSet? f (c = 'P') rest
    else if c = 'd' ∨ c = 'D' then some (.short .digit (c = 'D'), rest)
    else if c = 's' ∨ c = 'S' then some (.short .space (c = 'S'), rest)
    else if c = 'w' ∨ c = 'W' then some (.short .word (c = 'W'), rest)
    else if isEscapable c then some (.char c false, rest)
    else if c = 'b' then readBoundary? f rest
    else
      let single : Option Escape :=
        if c = 'a' then some (.char '\x07' false)
        else if c = 'f' then some (.char '\x0c' false)
        else if c = 't' then some (.char '\t' false)
        else if c = 'n' then some (.char '\n' false)
        else if c = 'r' then some (.char '\r' false)
        else if c = 'v' then some (.char '\x0b' false)
        else if c = 'A' then some (.look .textStart)
        else if c = 'z' then some (.look .textEnd)
        else if c = 'B' then some (.look (.notWordBoundary f.unicode))
        else if c = '<' then some (.look (.wordStart f.unicode))
        else if c = '>' then some (.look (.wordEnd f.unicode))
        else none
      single.map (·, rest)

end ColumnSelection.Pattern
