import ColumnSelection.Unicode.Ranges
import ColumnSelection.Yaml.Value

/-!
# What scalars mean

Plain scalars may be written so that they denote nothing, a truth value, or a number; all others
are text. The common tags demand one of these readings.
-/
namespace ColumnSelection.Yaml

open Numeric

/-- Whether the text denotes nothing. -/
def isNullText (s : String) : Bool :=
  s ∈ ["null", "Null", "NULL", "~"]

/-- The truth value that the text denotes. -/
def truth? (s : String) : Option Bool :=
  if s ∈ ["true", "True", "TRUE"] then some true
  else if s ∈ ["false", "False", "FALSE"] then some false
  else none

/-- A non-empty string of digits in a base. -/
def readInBase? (base : Nat) (s : List Char) : Option Nat :=
  if s.isEmpty then none
  else
    s.foldl (fun n c => do
      let d ← Unicode.hexDigit? c
      if d < base then return (← n) * base + d else none) (some 0)

/-- Whether a number would have a needless zero in front, which makes it text. -/
def hasLeadingZero (s : List Char) : Bool :=
  let digits := (splitSign s).2
  digits.head? == some '0' && digits.length > 1 && digits.all Char.isDigit

/-- Reads digits behind the sign for their base. -/
def readMarked? : List Char → Option Nat
  | '0' :: 'x' :: rest => readInBase? 16 rest
  | '0' :: 'o' :: rest => readInBase? 8 rest
  | '0' :: 'b' :: rest => readInBase? 2 rest
  | _ => none

/-- Reads a whole number of any size. -/
def readWhole? (s : List Char) : Option Int :=
  let (negative, digits) := splitSign s
  let decimal := if hasLeadingZero s then none else readInBase? 10 digits
  let magnitude := (readMarked? digits).or decimal
  magnitude.map fun n => if negative then -(n : Int) else n

/-- The whole numbers that values can hold. -/
def isRepresentable (n : Int) : Bool :=
  minInt64 ≤ n && n ≤ (maxWord64 : Int)

/-- Whether the number fits in 128 bits. Such numbers stay whole, larger ones may become floats. -/
def isWide (n : Int) : Bool :=
  -(Nat.pow 2 127 : Int) ≤ n && n < (Nat.pow 2 128 : Int)

/-- What reading a whole number comes to. -/
inductive WholeReading where
  | number (n : Int)
  /-- A whole number that no value can hold. -/
  | tooLarge
  | notWhole
deriving DecidableEq, Repr

/-- Reads a whole number. -/
def WholeReading.of (s : List Char) : WholeReading :=
  match readWhole? s with
  | some n => if isRepresentable n then .number n else if isWide n then .tooLarge else .notWhole
  | none => .notWhole

/-- The float that the text denotes: a decimal that is finite, or one of the words for the other
values. -/
def float? (s : List Char) : Option FloatLiteral :=
  let (negative, rest) := splitSign s
  if String.ofList rest ∈ [".inf", ".Inf", ".INF"] then some (.infinite negative)
  else if String.ofList s ∈ [".nan", ".NaN", ".NAN"] then some .notANumber
  else
    match readFloat? s with
    | some (.finite x) => some (.finite x)
    | _ => none

/-- What a plain scalar without a tag denotes. Whole numbers that no value can hold denote
nothing at all. -/
def plainValue? (s : String) : Option Value :=
  if s.isEmpty || isNullText s then some .null
  else
    match truth? s with
    | some b => some (.bool b)
    | none =>
      match WholeReading.of s.toList with
      | .number n => some (.int n)
      | .tooLarge => none
      | .notWhole =>
        if hasLeadingZero s.toList then some (.str s)
        else some (((float? s.toList).map Value.float).getD (.str s))

/-- What a scalar with one of the common tags denotes; with any other tag it is text. -/
def taggedValue? (tag s : String) : Option Value :=
  match tag with
  | "tag:yaml.org,2002:bool" => (truth? s).map .bool
  | "tag:yaml.org,2002:int" =>
    match WholeReading.of s.toList with
    | .number n => some (.int n)
    | _ => none
  | "tag:yaml.org,2002:float" => (float? s.toList).map .float
  | "tag:yaml.org,2002:null" => if isNullText s then some .null else none
  | _ => some (.str s)

end ColumnSelection.Yaml
