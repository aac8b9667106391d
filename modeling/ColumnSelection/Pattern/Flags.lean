import ColumnSelection.Text.Pieces

/-!
# Flags of patterns

The switches that a pattern can turn on and off, and the reader for a list of them.
-/
namespace ColumnSelection.Pattern

structure Flags where
  ignoreCase : Bool := false
  multiLine : Bool := false
  dotAll : Bool := false
  unicode : Bool := true
  /-- Carriage returns end lines too. -/
  anyLineEnd : Bool := false
  /-- Blanks and comments in the pattern are passed over. -/
  verbose : Bool := false
deriving Repr

namespace Flags

/-- Sets the flag with this letter; the letter for lazy repetition changes no match. -/
def set (f : Flags) (letter : Char) (on : Bool) : Flags :=
  if letter = 'i' then { f with ignoreCase := on }
  else if letter = 'm' then { f with multiLine := on }
  else if letter = 's' then { f with dotAll := on }
  else if letter = 'u' then { f with unicode := on }
  else if letter = 'R' then { f with anyLineEnd := on }
  else if letter = 'x' then { f with verbose := on }
  else f

/-- Applies letters in order; behind a hyphen flags are turned off. -/
def apply (f : Flags) (on : Bool) : List Char → Flags
  | [] => f
  | '-' :: rest => apply f false rest
  | c :: rest => apply (f.set c on) on rest

/-- The letters up to a colon or a closing parenthesis, which stays in the rest. Each letter and
the hyphen stand at most once, and the hyphen not at the end. -/
def readLetters? (seen : List Char) : List Char → Option (List Char × List Char)
  | [] => none
  | c :: rest =>
    if c = ':' ∨ c = ')' then
      if seen.head? = some '-' then none else some (seen.reverse, c :: rest)
    else if c ∈ seen ∨ c ∉ ['-', 'i', 'm', 's', 'U', 'u', 'R', 'x'] then none
    else readLetters? (c :: seen) rest

end Flags

/-- The rest behind blanks and comments, or behind the end of the comment that it is in. -/
def skipComments (inside : Bool) : List Char → List Char
  | [] => []
  | c :: rest =>
    if inside then skipComments (c ≠ '\n') rest
    else if Text.isBlank c then skipComments false rest
    else if c = '#' then skipComments true rest
    else c :: rest

/-- The rest behind what the verbose form passes over. -/
def Flags.skip (f : Flags) (s : List Char) : List Char :=
  if f.verbose then skipComments false s else s

end ColumnSelection.Pattern
