import ColumnSelection.Pattern.CharSet
import ColumnSelection.Pattern.Reader
import ColumnSelection.Pattern.Regex

/-!
# Patterns and their sizes

A regular expression kept together with its text. Patterns that are malformed, nest too deeply or
are too large have no value of this type. The size of an expression is the memory, in bytes, of the
states that recognize it by the bytes of UTF-8. A repetition has states for each of its rounds.
-/
namespace ColumnSelection

namespace Pattern

/-- Ranges of bytes that follow each other. -/
abbrev ByteForm := List (Nat × Nat)

/-- The numbers from `lo` to `hi` written in `n + 1` bytes: the first carries a mark, the others
six bits each. Numbers that differ in the first byte are taken together where the rest is free. -/
def byteForms (mark : Nat) : Nat → Nat → Nat → List ByteForm
  | 0, lo, hi => [[(mark + lo, mark + hi)]]
  | n + 1, lo, hi =>
    let unit := Nat.pow 64 (n + 1)
    let below := fun first lo hi => (byteForms 0x80 n lo hi).map ((mark + first, mark + first) :: ·)
    let first := lo / unit
    let last := hi / unit
    if first = last then below first (lo % unit) (hi % unit)
    else
      let isFrontFree := lo % unit = 0
      let isBackFree := hi % unit = unit - 1
      let start := if isFrontFree then first else first + 1
      let stop := if isBackFree then last else last - 1
      (if isFrontFree then [] else below first (lo % unit) (unit - 1)) ++
        (if start ≤ stop then [(mark + start, mark + stop) :: List.replicate (n + 1) (0x80, 0xBF)]
          else []) ++
        (if isBackFree then [] else below last 0 (hi % unit))

/-- The spans of code points whose UTF-8 forms are equally long, with the mark of the first byte
and the number of bytes behind it. -/
def utf8Spans : List (Nat × Nat × Nat × Nat) :=
  [(0, 0x7F, 0, 0), (0x80, 0x7FF, 0xC0, 1), (0x800, 0xD7FF, 0xE0, 2), (0xE000, 0xFFFF, 0xE0, 2),
    (0x10000, 0x10FFFF, 0xF0, 3)]

/-- The UTF-8 forms of the characters of a set. -/
def utf8Forms (r : Unicode.Ranges) : List ByteForm :=
  r.flatMap fun (lo, hi) => utf8Spans.flatMap fun (least, most, mark, n) =>
    if max lo least ≤ min hi most then byteForms mark n (max lo least) (min hi most) else []

/-- The length of the longest common beginning. -/
def commonLength : ByteForm → ByteForm → Nat
  | a :: s, b :: t => if a = b then commonLength s t + 1 else 0
  | _, _ => 0

/-- The number of states for forms in increasing order, each of which shares those for what it has
in common with the one before. -/
def stateCount (before : ByteForm) : List ByteForm → Nat
  | [] => 0
  | form :: rest => form.length - commonLength before form + stateCount form rest

/-- The size of a state. -/
def stateSize : Nat := 32

/-- The size of a set. -/
def setSize (r : Unicode.Ranges) : Nat :=
  let forms := utf8Forms r
  match r with
  | [(lo, hi)] => if lo = hi then stateSize * stateCount [] forms else whole forms
  | _ => whole forms
where
  /-- The size of several forms, those of ASCII characters being kept in one state. -/
  whole (forms : List ByteForm) : Nat :=
    if isAscii r then 2 * stateSize + 8 * forms.length
    else 2 * stateSize + 4 * forms.length + stateSize * stateCount [] forms

/-- The size of an expression. -/
def Regex.size : Regex → Nat
  | .empty => stateSize
  | .chars set => setSize set
  | .look _ => stateSize
  | .group a => a.size + 2 * stateSize
  | .seq a b => a.size + b.size
  | .alt a b => a.size + b.size + stateSize + 4
  | .repeated a least none => max least 1 * a.size + stateSize + 8
  | .repeated a least (some most) =>
    least * a.size + (most - least) * (a.size + stateSize + 8)

/-- The largest size of a pattern. -/
def maxSize : Nat := 10 * 1024 * 1024

end Pattern

structure Pattern where
  source : String
  regex : Pattern.Regex
deriving Repr

namespace Pattern

/-- The pattern that a text writes. -/
def parse? (source : String) : Option Pattern := do
  let regex ← readRegex? source.toList
  if regex.size ≤ maxSize then return ⟨source, regex⟩ else none

/-- Whether some part of the text matches. -/
def isMatch (p : Pattern) (text : String) : Bool :=
  p.regex.isMatch text

@[simp] theorem source_of_parse? {source : String} {p : Pattern} (h : parse? source = some p) :
    p.source = source := by
  simp only [parse?, Option.bind_eq_bind, Option.bind_eq_some_iff] at h
  obtain ⟨regex, -, h⟩ := h
  split at h
  · cases h; rfl
  · cases h

end Pattern

end ColumnSelection
