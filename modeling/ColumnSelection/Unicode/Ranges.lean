/-!
# Sets of code points

A set of code points is kept as a list of inclusive ranges, increasing and apart from each other.
The tables of character properties are written as hexadecimal text and read here.
-/
namespace ColumnSelection.Unicode

/-- The value of one hexadecimal digit. -/
def hexDigit? (c : Char) : Option Nat :=
  if '0' ≤ c ∧ c ≤ '9' then some (c.toNat - 48)
  else if 'a' ≤ c ∧ c ≤ 'f' then some (c.toNat - 87)
  else if 'A' ≤ c ∧ c ≤ 'F' then some (c.toNat - 55)
  else none

/-- The hexadecimal numbers of a text, whatever stands between them. -/
def hexNumbers (text : String) : List Nat :=
  let step := fun (c : Char) (state : List Nat × Option (Nat × Nat)) =>
    match hexDigit? c, state with
    | some d, (done, none) => (done, some (d, 16))
    | some d, (done, some (n, unit)) => (done, some (n + d * unit, unit * 16))
    | none, (done, none) => (done, none)
    | none, (done, some (n, _)) => (n :: done, none)
  match text.toList.foldr step ([], none) with
  | (done, none) => done
  | (done, some (n, _)) => n :: done

/-- A list of numbers taken two at a time. -/
def inPairs : List Nat → List (Nat × Nat)
  | a :: b :: rest => (a, b) :: inPairs rest
  | _ => []

/-- Code points from the first to the second number of a pair, both included. -/
abbrev Ranges := List (Nat × Nat)

namespace Ranges

/-- Reads ranges written as hexadecimal numbers, two for each range. -/
def ofText (text : String) : Ranges :=
  inPairs (hexNumbers text)

/-- Whether a code point lies in one of the ranges. -/
def contains (r : Ranges) (n : Nat) : Bool :=
  r.any fun (lo, hi) => lo ≤ n && n ≤ hi

theorem contains_iff {n : Nat} {r : Ranges} :
    r.contains n ↔ ∃ range ∈ r, range.1 ≤ n ∧ n ≤ range.2 := by
  simp [contains]

theorem contains_cons {lo hi n : Nat} {r : Ranges} :
    contains ((lo, hi) :: r) n ↔ (lo ≤ n ∧ n ≤ hi) ∨ r.contains n := by
  simp [contains]

theorem contains_append {n : Nat} {r s : Ranges} :
    contains (r ++ s) n ↔ r.contains n ∨ s.contains n := by
  simp [contains]

theorem contains_congr {n : Nat} {r s : Ranges} (h : ∀ range, range ∈ r ↔ range ∈ s) :
    r.contains n ↔ s.contains n := by
  simp [contains, h]

end Ranges

/-- A stretch of a character map: every `step`-th code point from `first` to `last` goes to the
point as far behind `image` as it is behind `first`. -/
structure Stretch where
  first : Nat
  last : Nat
  step : Nat
  image : Nat
deriving Repr, DecidableEq

/-- Reads stretches written as hexadecimal numbers, four for each stretch. -/
def Stretch.ofNumbers : List Nat → List Stretch
  | a :: b :: c :: d :: rest => ⟨a, b, c, d⟩ :: ofNumbers rest
  | _ => []

/-- The image of a code point under a map given by stretches; a point in none of them stays. -/
def Stretch.apply (table : List Stretch) (n : Nat) : Nat :=
  match table.find? fun s => s.first ≤ n && n ≤ s.last && (n - s.first) % s.step == 0 with
  | some s => s.image + (n - s.first)
  | none => n

/-- The points of a stretch with their images. -/
def Stretch.pairs (s : Stretch) : List (Nat × Nat) :=
  (List.range ((s.last - s.first) / s.step + 1)).map fun i =>
    (s.first + i * s.step, s.image + i * s.step)

end ColumnSelection.Unicode
