import ColumnSelection.Numeric.Binary64

/-!
# The shortest decimal that reads back

A binary64 number is written with the fewest decimal digits that read back as the same number,
and among those with the digits nearest to its exact value. The search runs over the decimal
grids from coarse to fine; on each grid only the two neighbours of the exact value can be the
answer.
-/
namespace ColumnSelection.Numeric

/-- The number `digits * 10^exponent`. -/
structure Decimal where
  digits : Nat
  exponent : Int
deriving Repr, DecidableEq, Inhabited

namespace Decimal

/-- Moves the zeros that end the digits into the exponent; `fuel` bounds their number. -/
def strip : Nat → Decimal → Decimal
  | 0, d => d
  | fuel + 1, d =>
    if d.digits ≠ 0 ∧ d.digits % 10 = 0 then strip fuel ⟨d.digits / 10, d.exponent + 1⟩ else d

end Decimal

namespace Binary64

/-- The reals that round to a positive number, in quarters of the unit of its last place. -/
structure Neighbourhood where
  low : Nat
  centre : Nat
  high : Nat
  closed : Bool

/-- The gap below a power of two is half as wide as the one above it. The ends belong to the
neighbourhood when the mantissa is even. -/
def neighbourhood (x : Binary64) : Neighbourhood where
  low :=
    if x.mantissa = Nat.pow 2 52 ∧ 0 < x.exponent then 4 * x.mantissa - 1
    else 4 * x.mantissa - 2
  centre := 4 * x.mantissa
  high := 4 * x.mantissa + 2
  closed := x.mantissa % 2 = 0

/-- The answer on the grid of multiples of `10^k`, if a multiple lies in the neighbourhood. -/
def onGrid? (x : Binary64) (k : Int) : Option Nat :=
  let hood := x.neighbourhood
  let point := Nat.pow 10 k.toNat * Nat.pow 2 1076
  let scale := Nat.pow 2 x.exponent * Nat.pow 10 (-k).toNat
  let inside := fun c : Nat =>
    if hood.closed then hood.low * scale ≤ c * point ∧ c * point ≤ hood.high * scale
    else hood.low * scale < c * point ∧ c * point < hood.high * scale
  let below := hood.centre * scale / point
  let rest := hood.centre * scale % point
  let upperNearer := 2 * rest > point ∨ (2 * rest = point ∧ below % 2 = 1)
  if inside below then
    if inside (below + 1) ∧ upperNearer then some (below + 1) else some below
  else if inside (below + 1) then some (below + 1)
  else none

/-- The first answer on the grids from `10^k` downwards. -/
def searchGrids (x : Binary64) : Nat → Int → Decimal
  | 0, k => ⟨0, k⟩
  | steps + 1, k =>
    match x.onGrid? k with
    | some c => Decimal.strip 20 ⟨c, k⟩
    | none => searchGrids x steps (k - 1)

/-- The shortest decimal of the absolute value. The search starts above the leading digit. -/
def shortest (x : Binary64) : Decimal :=
  if x.isZero then ⟨0, 0⟩
  else
    let bits : Int := (Nat.log2 x.mantissa : Int) + 1 + x.exponent - 1074
    searchGrids x 22 (bits * 30103 / 100000 + 1)

end Binary64

/-- How a decimal is spelled: positional notation serves the decimal exponents from `least` to
`most`, and a positive exponent of the scientific notation has its sign written or not. -/
structure FloatLayout where
  least : Int
  most : Int
  plus : Bool

/-- Digits with a point after the first `count`, which are filled up with zeros; there is always
a digit on both sides of the point. -/
def withPoint (digits : String) (count : Int) : String :=
  let n := digits.length
  if count ≤ 0 then "0." ++ "".pushn '0' (-count).toNat ++ digits
  else if count.toNat < n then
    String.ofList (digits.toList.take count.toNat) ++ "." ++
      String.ofList (digits.toList.drop count.toNat)
  else digits ++ "".pushn '0' (count.toNat - n) ++ ".0"

/-- The spelling of an absolute value. -/
def FloatLayout.spell (layout : FloatLayout) (d : Decimal) : String :=
  if d.digits = 0 then "0.0"
  else
    let digits := toString d.digits
    let leading : Int := d.exponent + digits.length - 1
    if layout.least ≤ leading ∧ leading ≤ layout.most then withPoint digits (leading + 1)
    else
      let mantissa :=
        if digits.length = 1 then digits
        else String.ofList (digits.toList.take 1) ++ "." ++ String.ofList (digits.toList.drop 1)
      let sign := if leading < 0 then "-" else if layout.plus then "+" else ""
      mantissa ++ "e" ++ sign ++ toString leading.natAbs

/-- The spelling of a number with its sign. -/
def Binary64.spell (layout : FloatLayout) (x : Binary64) : String :=
  (if x.negative then "-" else "") ++ layout.spell x.shortest

end ColumnSelection.Numeric
