import ColumnSelection.Json.Basic
import ColumnSelection.Unicode.Ranges

/-!
# Reading JSON

A strict reader for one JSON value that fills its text. Arrays and objects may be nested up to
`maxDepth` levels. `Json.read?` keeps every entry of an object as it stands in the text, and
`Json.parse?` merges entries with equal keys.
-/
namespace ColumnSelection.Json

open Numeric

/-- The number of levels of arrays and objects that a text may have. -/
def maxDepth : Nat := 127

/-- The blanks between tokens. -/
def isSpace (c : Char) : Bool :=
  c = ' ' || c = '\t' || c = '\n' || c = '\r'

/-- The text behind its leading blanks. -/
def skipSpace (s : List Char) : List Char :=
  s.dropWhile isSpace

/-- The rest of a text that begins with the given word. -/
def afterWord? : List Char → List Char → Option (List Char)
  | [], s => some s
  | w :: word, c :: s => if w = c then afterWord? word s else none
  | _ :: _, [] => none

/-- A part of a string as it is written: a character, or a code unit in an escape sequence. -/
inductive StringPart where
  | char (c : Char)
  | unit (n : Nat)

/-- The character that a backslash and this letter stand for. -/
def shortEscape? (c : Char) : Option Char :=
  if c = '"' ∨ c = '\\' ∨ c = '/' then some c
  else if c = 'b' then some '\x08'
  else if c = 'f' then some '\x0c'
  else if c = 'n' then some '\n'
  else if c = 'r' then some '\r'
  else if c = 't' then some '\t'
  else none

/-- The number written by four hexadecimal digits. -/
def fourHex? (a b c d : Char) : Option Nat := do
  let a ← Unicode.hexDigit? a
  let b ← Unicode.hexDigit? b
  let c ← Unicode.hexDigit? c
  let d ← Unicode.hexDigit? d
  return ((a * 16 + b) * 16 + c) * 16 + d

/-- The parts of a string up to its closing quotation mark, and the text behind it. -/
def stringParts? : List Char → Option (List StringPart × List Char)
  | [] => none
  | c :: rest =>
    if c = '"' then some ([], rest)
    else if c = '\\' then
      match rest with
      | [] => none
      | 'u' :: more =>
        match more with
        | h₁ :: h₂ :: h₃ :: h₄ :: tail => do
          let n ← fourHex? h₁ h₂ h₃ h₄
          let (parts, after) ← stringParts? tail
          return (.unit n :: parts, after)
        | _ => none
      | e :: more => do
        let d ← shortEscape? e
        let (parts, after) ← stringParts? more
        return (.char d :: parts, after)
    else if c.toNat < 0x20 then none
    else do
      let (parts, after) ← stringParts? rest
      return (.char c :: parts, after)

/-- The text made of parts: a high and a low surrogate next to each other make one character,
and no surrogate stands alone. -/
def assemble? : List StringPart → Option (List Char)
  | [] => some []
  | .char c :: rest => (assemble? rest).map (c :: ·)
  | .unit n :: rest =>
    if n < 0xD800 ∨ 0xE000 ≤ n then (assemble? rest).map (Char.ofNat n :: ·)
    else if 0xDC00 ≤ n then none
    else match rest with
      | .unit m :: more =>
        if 0xDC00 ≤ m ∧ m < 0xE000 then
          (assemble? more).map (Char.ofNat (0x10000 + (n - 0xD800) * 0x400 + (m - 0xDC00)) :: ·)
        else none
      | _ => none

/-- A string behind its opening quotation mark. -/
def readString? (s : List Char) : Option (String × List Char) := do
  let (parts, rest) ← stringParts? s
  let chars ← assemble? parts
  return (String.ofList chars, rest)

/-- Takes digits while the number that they make, continuing `n`, fits in a 64-bit word. -/
def absorb (n : Nat) : List Char → Nat × List Char
  | [] => (n, [])
  | c :: rest =>
    let m := 10 * n + (c.toNat - 48)
    if m ≤ maxWord64 then absorb m rest else (n, c :: rest)

/-- Divides by `10^exponent` in steps of at most `10^308`; `fuel` steps are enough to reach zero
from any number that fits in a word. -/
def scaleDown? : Nat → Binary64 → Nat → Option Binary64
  | 0, x, _ => some x
  | fuel + 1, x, exponent =>
    if x.isZero then some x
    else do
      let step := min exponent 308
      let power ← Binary64.ofNat? (Nat.pow 10 step)
      let y ← x.over? power
      if exponent ≤ 308 then some y else scaleDown? fuel y (exponent - step)

/-- A float from the leading digits of its literal and a power of ten: the digits are rounded,
then scaled by the rounded power. A number too large for the format is refused. -/
def scaled? (negative : Bool) (significand : Nat) (exponent : Int) : Option Json := do
  let x ← Binary64.ofNat? significand
  let y ←
    if exponent < 0 then scaleDown? 4 x exponent.natAbs
    else if x.isZero then some x
    else if exponent ≤ 308 then do x.times? (← Binary64.ofNat? (Nat.pow 10 exponent.toNat))
    else none
  return .float (y.withSign negative)

/-- The largest exponent that is read as a number. -/
def maxExponent : Nat := 2147483647

/-- The exponent of a literal, behind its letter, applied to digits already scaled by
`10^shift`. -/
def readExponent? (negative : Bool) (significand : Nat) (shift : Int) (s : List Char) :
    Option (Json × List Char) := do
  let (down, digits) := splitSign s
  let n ← readDigits? (digits.takeWhile Char.isDigit)
  let rest := digits.dropWhile Char.isDigit
  let value ←
    if n ≤ maxExponent then
      scaled? negative significand (if down then shift - n else shift + n)
    else if significand ≠ 0 ∧ !down then none
    else some (.float (Binary64.zero negative))
  return (value, rest)

/-- A literal without fraction and exponent, as digits of which `dropped` did not fit in a word. A
negative zero and a number beyond 64 bits are floats. -/
def wholeNumber? (negative : Bool) (significand : Nat) (dropped : Nat) : Option Json :=
  if dropped ≠ 0 then scaled? negative significand dropped
  else if !negative then some (.int significand)
  else if significand = 0 ∨ minInt64 > -(significand : Int) then scaled? true significand 0
  else some (.int (-(significand : Int)))

/-- A number at the front of a text. -/
def readNumber? (s : List Char) : Option (Json × List Char) := do
  let (negative, body) := match s with
    | '-' :: rest => (true, rest)
    | s => (false, s)
  let whole := body.takeWhile Char.isDigit
  let rest := body.dropWhile Char.isDigit
  if whole.isEmpty || (whole.head? == some '0' && whole.length != 1) then none
  else
    let (significand, dropped) := absorb 0 whole
    match rest with
    | '.' :: rest =>
      let fraction := rest.takeWhile Char.isDigit
      let rest := rest.dropWhile Char.isDigit
      if fraction.isEmpty then none
      else
        let (significand, unread) := absorb significand fraction
        let shift : Int := dropped.length - (fraction.length - unread.length : Nat)
        match rest with
        | c :: tail =>
          if c = 'e' ∨ c = 'E' then readExponent? negative significand shift tail
          else return (← scaled? negative significand shift, rest)
        | [] => return (← scaled? negative significand shift, rest)
    | c :: tail =>
      if c = 'e' ∨ c = 'E' then readExponent? negative significand dropped.length tail
      else return (← wholeNumber? negative significand dropped.length, rest)
    | [] => return (← wholeNumber? negative significand dropped.length, rest)

/-- A value that is neither an array nor an object, at the front of a text. -/
def readScalar? (s : List Char) : Option (Json × List Char) :=
  match s with
  | [] => none
  | c :: rest =>
    if c = '"' then (readString? rest).map fun (text, after) => (.str text, after)
    else if c = 'n' then (afterWord? "ull".toList rest).map (.null, ·)
    else if c = 't' then (afterWord? "rue".toList rest).map (.bool true, ·)
    else if c = 'f' then (afterWord? "alse".toList rest).map (.bool false, ·)
    else readNumber? s

mutual

/-- A value at the front of a text, blanks before it skipped. `fuel` bounds the calls, `depth`
the levels of arrays and objects that may still be opened. -/
def readValue? (fuel depth : Nat) (s : List Char) : Option (Json × List Char) :=
  match fuel with
  | 0 => none
  | fuel + 1 =>
    match skipSpace s with
    | '[' :: rest =>
      match depth, skipSpace rest with
      | 0, _ => none
      | _ + 1, ']' :: after => some (.arr [], after)
      | depth + 1, rest => do
        let (items, after) ← readItems? fuel depth rest
        return (.arr items, after)
    | '{' :: rest =>
      match depth, skipSpace rest with
      | 0, _ => none
      | _ + 1, '}' :: after => some (.obj [], after)
      | depth + 1, rest => do
        let (fields, after) ← readFields? fuel depth rest
        return (.obj fields, after)
    | s => readScalar? s
termination_by structural fuel

/-- The items of an array up to its closing bracket, at least one. -/
def readItems? (fuel depth : Nat) (s : List Char) : Option (List Json × List Char) :=
  match fuel with
  | 0 => none
  | fuel + 1 => do
    let (item, rest) ← readValue? fuel depth s
    match skipSpace rest with
    | ',' :: rest =>
      let (items, after) ← readItems? fuel depth rest
      return (item :: items, after)
    | ']' :: after => return ([item], after)
    | _ => none
termination_by structural fuel

/-- The entries of an object up to its closing brace, at least one. -/
def readFields? (fuel depth : Nat) (s : List Char) : Option (List (String × Json) × List Char) :=
  match fuel with
  | 0 => none
  | fuel + 1 =>
    match skipSpace s with
    | '"' :: rest => do
      let (key, rest) ← readString? rest
      match skipSpace rest with
      | ':' :: rest =>
        let (value, rest) ← readValue? fuel depth rest
        match skipSpace rest with
        | ',' :: rest =>
          let (fields, after) ← readFields? fuel depth rest
          return ((key, value) :: fields, after)
        | '}' :: after => return ([(key, value)], after)
        | _ => none
      | _ => none
    | _ => none
termination_by structural fuel

end

/-- Reads a text that holds one value and blanks around it; objects keep all their entries. -/
def read? (text : String) : Option Json := do
  let s := text.toList
  let (value, rest) ← readValue? (2 * s.length + 2) maxDepth s
  if (skipSpace rest).isEmpty then some value else none

/-- Reads a text that holds one value; an object that repeats a key takes its last value. -/
def parse? (text : String) : Option Json :=
  (read? text).map merge

end ColumnSelection.Json
