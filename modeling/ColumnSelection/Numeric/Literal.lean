import ColumnSelection.Numeric.Binary64

/-!
# Number literals

Readers for the numbers that stand in program text: whole numbers with an optional sign, and
decimals with an optional fraction and exponent. A reader takes the whole text or fails.
-/
namespace ColumnSelection.Numeric

/-- The value of a string of digits, the most significant first. -/
def digitsValue (s : List Char) : Nat :=
  s.foldl (fun n c => 10 * n + (c.toNat - 48)) 0

/-- A non-empty string of digits. -/
def readDigits? (s : List Char) : Option Nat :=
  if !s.isEmpty && s.all Char.isDigit then some (digitsValue s) else none

/-- The sign that may open a number, true for a minus, and what follows it. -/
def splitSign : List Char → Bool × List Char
  | '-' :: rest => (true, rest)
  | '+' :: rest => (false, rest)
  | s => (false, s)

/-- The smallest and the largest signed 64-bit number. -/
def minInt64 : Int := -9223372036854775808

@[inherit_doc minInt64]
def maxInt64 : Int := 9223372036854775807

/-- The largest unsigned 64-bit number. -/
def maxWord64 : Nat := 18446744073709551615

/-- A signed 64-bit number in decimal notation. -/
def readInt64? (s : List Char) : Option Int :=
  let (negative, digits) := splitSign s
  match readDigits? digits with
  | none => none
  | some n =>
    let i : Int := if negative then -(n : Int) else n
    if minInt64 ≤ i ∧ i ≤ maxInt64 then some i else none

/-- An unsigned 64-bit number in decimal notation; a plus sign is allowed. -/
def readWord64? (s : List Char) : Option Nat :=
  let digits := match s with
    | '+' :: rest => rest
    | s => s
  match readDigits? digits with
  | none => none
  | some n => if n ≤ maxWord64 then some n else none

/-- What a decimal literal denotes: a finite number, an infinity, or no number. -/
inductive FloatLiteral where
  | finite (x : Binary64)
  | infinite (negative : Bool)
  | notANumber
deriving DecidableEq

/-- The exponent part of a decimal literal: nothing, or the letter, a sign and digits. -/
def readExponent? : List Char → Option Int
  | [] => some 0
  | c :: rest =>
    if c = 'e' ∨ c = 'E' then
      let (negative, digits) := splitSign rest
      (readDigits? digits).map fun n => if negative then -(n : Int) else n
    else none

/-- Digits with an optional point among them, and an optional exponent: the digits without the
point, and the power of ten to multiply by. -/
def readDecimal? (s : List Char) : Option (Nat × Int) :=
  let whole := s.takeWhile Char.isDigit
  let rest := s.dropWhile Char.isDigit
  let fraction := match rest with
    | '.' :: r => r.takeWhile Char.isDigit
    | _ => []
  let tail := match rest with
    | '.' :: r => r.dropWhile Char.isDigit
    | r => r
  if whole.isEmpty && fraction.isEmpty then none
  else (readExponent? tail).map fun e => (digitsValue (whole ++ fraction), e - fraction.length)

/-- A decimal literal, rounded to the nearest number, or one of the words for the values that
are not finite. -/
def readFloat? (s : List Char) : Option FloatLiteral :=
  let (negative, rest) := splitSign s
  match readDecimal? rest with
  | some (digits, exponent) =>
    match Binary64.ofDecimal? negative digits exponent with
    | some x => some (.finite x)
    | none => some (.infinite negative)
  | none =>
    let word := String.ofList (rest.map Char.toLower)
    if word = "inf" ∨ word = "infinity" then some (.infinite negative)
    else if word = "nan" then some .notANumber
    else none

end ColumnSelection.Numeric
