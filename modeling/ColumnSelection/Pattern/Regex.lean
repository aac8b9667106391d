import ColumnSelection.Unicode.Property

/-!
# Regular expressions

An expression is given meaning by the positions of a text at which a match can end when it begins
at one of given positions. Repetition without a bound is the closure of one round; as positions
are finitely many, it is reached after as many rounds as there are positions.
-/
namespace ColumnSelection.Pattern

/-- A condition on the characters around a position. -/
inductive Look where
  | textStart
  | textEnd
  | lineStart
  | lineEnd
  /-- As `lineStart`, with carriage returns ending lines too. -/
  | lineStartAny
  | lineEndAny
  | wordBoundary (unicode : Bool)
  | notWordBoundary (unicode : Bool)
  | wordStart (unicode : Bool)
  | wordEnd (unicode : Bool)
  /-- No word character before. -/
  | wordStartHalf (unicode : Bool)
  /-- No word character behind. -/
  | wordEndHalf (unicode : Bool)
deriving DecidableEq, Repr

inductive Regex where
  | empty
  /-- One character out of a set. -/
  | chars (set : Unicode.Ranges)
  | look (condition : Look)
  /-- A numbered part. -/
  | group (a : Regex)
  | seq (a b : Regex)
  | alt (a b : Regex)
  /-- As many rounds as the two counts allow; without the second count there is no limit. -/
  | repeated (a : Regex) (least : Nat) (most : Option Nat)
deriving Repr, Inhabited

/-- Whether a character belongs to words. -/
def isWordChar (unicode : Bool) : Option Char → Bool
  | none => false
  | some c =>
    if c.toNat < 0x80 then c.isAlphanum || c == '_'
    else unicode && Unicode.wordRanges.contains c.toNat

/-- The character before a position. -/
def charBefore (text : Array Char) (i : Nat) : Option Char :=
  if i = 0 then none else text[i - 1]?

/-- Whether the condition holds between two characters, which are missing at the ends. -/
def Look.holds (before after : Option Char) : Look → Bool
  | .textStart => before.isNone
  | .textEnd => after.isNone
  | .lineStart => before.isNone || before == some '\n'
  | .lineEnd => after.isNone || after == some '\n'
  | .lineStartAny =>
    before.isNone || before == some '\n' || (before == some '\r' && after != some '\n')
  | .lineEndAny =>
    after.isNone || after == some '\r' || (after == some '\n' && before != some '\r')
  | .wordBoundary unicode => isWordChar unicode before != isWordChar unicode after
  | .notWordBoundary unicode => isWordChar unicode before == isWordChar unicode after
  | .wordStart unicode => !isWordChar unicode before && isWordChar unicode after
  | .wordEnd unicode => isWordChar unicode before && !isWordChar unicode after
  | .wordStartHalf unicode => !isWordChar unicode before
  | .wordEndHalf unicode => !isWordChar unicode after

/-- The positions of the second list that are not in the first. -/
def newPositions (known found : List Nat) : List Nat :=
  (found.filter fun i => !known.contains i).eraseDups

/-- Exactly `n` rounds from the given positions. -/
def rounds (round : List Nat → List Nat) : Nat → List Nat → List Nat
  | 0, s => s
  | n + 1, s => if s.isEmpty then [] else rounds round n (round s)

/-- The positions reached by at most `n` rounds, given those known and those found last. -/
def closure (round : List Nat → List Nat) : Nat → List Nat → List Nat → List Nat
  | 0, known, _ => known
  | n + 1, known, last =>
    match newPositions known (round last) with
    | [] => known
    | fresh => closure round n (known ++ fresh) fresh

namespace Regex

/-- The positions at which a match can end that begins at one of the given positions. -/
def ends (text : Array Char) : Regex → List Nat → List Nat
  | .empty, s => s
  | .chars set, s => s.filterMap fun i =>
    match text[i]? with
    | some c => if set.contains c.toNat then some (i + 1) else none
    | none => none
  | .look condition, s => s.filter fun i => condition.holds (charBefore text i) text[i]?
  | .group a, s => ends text a s
  | .seq a b, s => ends text b (ends text a s)
  | .alt a b, s =>
    let left := ends text a s
    left ++ newPositions left (ends text b s)
  | .repeated a least most, s =>
    let base := rounds (ends text a) least s
    let more := match most with
      | none => text.size + 1
      | some n => min (n - least) (text.size + 1)
    closure (ends text a) more base base

/-- Whether some part of the text matches. -/
def isMatch (r : Regex) (text : String) : Bool :=
  let chars := text.toList.toArray
  !(r.ends chars (List.range (chars.size + 1))).isEmpty

/-- Whether every match is empty. -/
def isNeverLong : Regex → Bool
  | .empty => true
  | .chars _ => false
  | .look _ => true
  | .group a => a.isNeverLong
  | .seq a b => a.isNeverLong && b.isNeverLong
  | .alt a b => a.isNeverLong && b.isNeverLong
  | .repeated a _ most => a.isNeverLong || most == some 0

/-- The repetition of an expression. Where every match is empty, further rounds change nothing. -/
def times (a : Regex) (least : Nat) (most : Option Nat) : Regex :=
  if most = some 0 then .empty
  else if a.isNeverLong then .repeated a (min least 1) (some 1)
  else .repeated a least most

/-- A sequence of expressions. -/
def sequence : List Regex → Regex
  | [] => .empty
  | [r] => r
  | r :: rest => .seq r (sequence rest)

/-- A choice among expressions. -/
def choice : List Regex → Regex
  | [] => .empty
  | [r] => r
  | r :: rest => .alt r (choice rest)

end Regex

end ColumnSelection.Pattern
