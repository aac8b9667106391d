import ColumnSelection.Pattern.Bracket

/-!
# Reading patterns

The grammar of patterns: branches made of items, each a primitive, a class or a group, with the
repetitions behind it. Flags set inside a group hold up to its end, in later branches too.
-/
namespace ColumnSelection.Pattern

/-- A part of a pattern with the number of levels that it nests. A directive sets flags only. -/
structure Part where
  regex : Regex
  level : Nat := 0
  isDirective : Bool := false

namespace Part

/-- The largest level of some parts. -/
def maxLevel (parts : List Part) : Nat :=
  parts.foldl (fun n part => max n part.level) 0

/-- The items of a branch in order. -/
def sequence : List Part → Part
  | [part] => part
  | parts =>
    ⟨Regex.sequence (parts.map regex), if parts.isEmpty then 0 else maxLevel parts + 1, false⟩

/-- The branches of a group in order. -/
def choice : List Part → Part
  | [part] => part
  | parts => ⟨Regex.choice (parts.map regex), maxLevel parts + 1, false⟩

/-- The branches read so far together with the one made of the items of the last, in reverse. -/
def finished (items branches : List Part) : List Part :=
  sequence items.reverse :: branches

end Part

/-- Whether a character may stand in the name of a group. -/
def isNameChar (isFirst : Bool) (c : Char) : Bool :=
  let isIn := fun key => ((named? key).getD []).contains c.toNat
  if isFirst then c == '_' || isIn "alphabetic"
  else c == '_' || c == '.' || c == '[' || c == ']' || isIn "alphabetic" || isIn "number"

/-- Reads the name of a group behind its opening angle, with the closing one passed. A name is
given only once. -/
def readName? (names : List String) (s : List Char) : Option (String × List Char) := do
  let name := s.takeWhile (· ≠ '>')
  match s.dropWhile (· ≠ '>'), name with
  | _ :: after, first :: more =>
    let text := String.ofList name
    if isNameChar true first && more.all (isNameChar false) && !names.contains text then
      return (text, after)
    else none
  | _, _ => none

/-- What an opening parenthesis begins. -/
inductive Opening where
  /-- Flags for the rest of the group around. -/
  | directive (flags : Flags)
  /-- A group with its flags, and its name if it has one. Only numbered groups have names. -/
  | group (flags : Flags) (isNumbered : Bool) (name : Option String)

/-- Reads what stands behind an opening parenthesis. -/
def readOpening? (f : Flags) (names : List String) (s : List Char) :
    Option (Opening × List Char) :=
  match f.skip s with
  | '?' :: 'P' :: '<' :: rest => do
    let (name, after) ← readName? names rest
    return (.group f true (some name), after)
  | '?' :: '<' :: rest => do
    if rest.head? = some '=' ∨ rest.head? = some '!' then none
    else
      let (name, after) ← readName? names rest
      return (.group f true (some name), after)
  | '?' :: rest => do
    let (letters, after) ← Flags.readLetters? [] rest
    let flags := f.apply true letters
    match after with
    | ':' :: after => return (.group flags false none, after)
    | _ :: after => if letters.isEmpty then none else return (.directive flags, after)
    | [] => none
  | s => some (.group f true none, s)

/-- Reads a count, with blanks allowed around it. -/
def readCount? (f : Flags) (s : List Char) : Option (Nat × List Char) :=
  let rec digits (value : Nat) (found : Bool) : Nat → List Char → Option (Nat × List Char)
    | 0, _ => none
    | fuel + 1, s =>
      match s with
      | c :: rest =>
        if c.isDigit then digits (value * 10 + (c.toNat - 48)) true fuel (f.skip rest)
        else if found && value < 4294967296 then some (value, s.dropWhile Text.isBlank) else none
      | [] => none
  digits 0 false (s.length + 1) (s.dropWhile Text.isBlank)

/-- Reads the least and the greatest number of rounds behind an opening brace. -/
def readBounds? (f : Flags) (s : List Char) : Option ((Nat × Option Nat) × List Char) := do
  let (least, rest) ← readCount? f (f.skip s)
  let (most, rest) ← match f.skip rest with
    | ',' :: rest =>
      match f.skip rest with
      | '}' :: rest => some (none, '}' :: rest)
      | rest => do
        let (most, rest) ← readCount? f rest
        some (some most, f.skip rest)
    | rest => some (some least, rest)
  match rest with
  | '}' :: after => if most.all (least ≤ ·) then return ((least, most), after) else none
  | _ => none

/-- Reads a repetition with the mark of a lazy one, which changes no match. -/
def readRepetition? (f : Flags) (s : List Char) :
    Option ((Nat × Option Nat) × List Char) := do
  let passMark := fun s : List Char => if s.head? = some '?' then s.drop 1 else s
  match s with
  | '?' :: rest => return ((0, some 1), passMark rest)
  | '*' :: rest => return ((0, none), passMark rest)
  | '+' :: rest => return ((1, none), passMark rest)
  | '{' :: rest =>
    let (bounds, after) ← readBounds? f rest
    return (bounds, passMark (f.skip after))
  | _ => none

/-- The expression for one character. -/
def literal (f : Flags) (c : Char) : Regex :=
  .chars (foldBy f [(c.toNat, c.toNat)])

/-- The expression for an escape sequence outside classes. Without Unicode a byte has to be an
ASCII character. -/
def Escape.regex? (f : Flags) : Escape → Option Regex
  | .char c byte => if f.unicode || !byte || c.toNat < 0x80 then some (literal f c) else none
  | .short k negated =>
    let r := k.ranges f.unicode
    if !negated then some (.chars r)
    else if f.unicode then some (.chars (complement r)) else none
  | .named set negated => (foldAndNegate? f negated set).map .chars
  | .look condition => some (.look condition)

/-- Reads a primitive: an escape sequence, a condition, the point, or a character that stands for
itself. -/
def readPrimitive? (f : Flags) (s : List Char) : Option (Regex × List Char) :=
  match s with
  | [] => none
  | '\\' :: rest => do
    let (escape, after) ← readEscape? f rest
    return (← escape.regex? f, after)
  | '.' :: rest =>
    if !f.unicode then none
    else if f.dotAll then some (.chars [(0, maxPoint)], rest)
    else if f.anyLineEnd then some (.chars (complement [(10, 10), (13, 13)]), rest)
    else some (.chars (complement [(10, 10)]), rest)
  | '^' :: rest =>
    let look := if !f.multiLine then .textStart else if f.anyLineEnd then .lineStartAny
      else .lineStart
    some (.look look, rest)
  | '$' :: rest =>
    let look := if !f.multiLine then .textEnd else if f.anyLineEnd then .lineEndAny else .lineEnd
    some (.look look, rest)
  | c :: rest => some (literal f c, rest)

/-- Reads the branches of a group up to its closing parenthesis, which stays in the rest, or to the
end. Given are the names of groups so far, and the branches and the items of the last branch read
so far, both in reverse. -/
def readBranches? (f : Flags) (names : List String) (branches items : List Part) :
    Nat → List Char → Option (Part × List String × List Char)
  | 0, _ => none
  | fuel + 1, s =>
    match f.skip s with
    | '|' :: rest => readBranches? f names (Part.finished items branches) [] fuel rest
    | '(' :: rest => do
      let (opening, after) ← readOpening? f names rest
      match opening with
      | .directive flags =>
        readBranches? flags names branches (⟨.empty, 0, true⟩ :: items) fuel after
      | .group flags isNumbered name =>
        let (part, names, after) ← readBranches? flags (name.toList ++ names) [] [] fuel after
        let regex := if isNumbered then part.regex.group else part.regex
        match after with
        | ')' :: after =>
          readBranches? f names branches (⟨regex, part.level + 1, false⟩ :: items) fuel after
        | _ => none
    | '[' :: rest => do
      let (part, after) ← readClass? f (rest.length + 1) rest
      readBranches? f names branches (⟨.chars part.set, part.level, false⟩ :: items) fuel after
    | c :: rest =>
      if c = ')' then some (Part.choice (Part.finished items branches).reverse, names, c :: rest)
      else if c ∈ ['?', '*', '+', '\x7b'] then
        match items with
        | [] => none
        | last :: items =>
          if last.isDirective then none
          else do
            let ((least, most), after) ← readRepetition? f (c :: rest)
            let part : Part := ⟨last.regex.times least most, last.level + 1, false⟩
            readBranches? f names branches (part :: items) fuel after
      else do
        let (regex, after) ← readPrimitive? f (c :: rest)
        readBranches? f names branches (⟨regex, 0, false⟩ :: items) fuel after
    | [] => some (Part.choice (Part.finished items branches).reverse, names, [])

/-- The number of levels that a pattern may nest. -/
def maxLevel : Nat := 250

/-- Reads a whole pattern. -/
def readRegex? (s : List Char) : Option Regex := do
  let (part, _, rest) ← readBranches? {} [] [] [] (s.length + 1) s
  if rest.isEmpty && part.level ≤ maxLevel then return part.regex else none

end ColumnSelection.Pattern
