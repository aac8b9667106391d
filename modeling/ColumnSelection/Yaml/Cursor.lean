/-!
# Positions and tokens of YAML text

The parts that a text falls into, and the rest of a text with the place where it begins: how many
characters stand before it, in which line and in which column. Lines end in five ways; the line and
paragraph separators are kept as they are when they end a line of a scalar, the others become line
feeds.
-/
namespace ColumnSelection.Yaml

/-- The tokens of a text. Those for the start and the end of a block collection stand for changes of
indentation. -/
inductive Token where
  /-- The version that the text asks for. -/
  | version (major minor : Nat)
  /-- The beginning that tags with a handle have. -/
  | tagHandle (handle start : String)
  | documentStart
  | documentEnd
  | blockSequenceStart
  | blockMappingStart
  | blockEnd
  | flowSequenceStart
  | flowSequenceEnd
  | flowMappingStart
  | flowMappingEnd
  | blockEntry
  | flowEntry
  | key
  | value
  | anchor (name : String)
  /-- Stands for the node with an anchor. -/
  | reference (name : String)
  | tag (handle rest : String)
  | scalar (text : String) (isPlain : Bool)
deriving DecidableEq, Repr

/-- Whether the character ends a line. -/
def isBreak (c : Char) : Bool :=
  c == '\n' || c == '\r' || c == '\u0085' || c == '\u2028' || c == '\u2029'

/-- Whether the character separates words of a line. -/
def isBlank (c : Char) : Bool :=
  c == ' ' || c == '\t'

/-- Whether the character may stand in anchors and in the handles of tags. -/
def isNameChar (c : Char) : Bool :=
  c.isAlphanum || c == '_' || c == '-'

/-- Whether the text begins with a blank or a line end, or is empty. -/
def atGap : List Char → Bool
  | [] => true
  | c :: _ => isBlank c || isBreak c

/-- Whether the character may stand in a document at all. -/
def isAllowed (c : Char) : Bool :=
  let n := c.toNat
  n == 9 || n == 10 || n == 13 || (0x20 ≤ n && n ≤ 0x7E) || n == 0x85 ||
    (0xA0 ≤ n && n ≤ 0xD7FF) || (0xE000 ≤ n && n ≤ 0xFFFD) || 0x10000 ≤ n

structure Cursor where
  rest : List Char
  index : Nat := 0
  line : Nat := 0
  column : Nat := 0

namespace Cursor

def head? (c : Cursor) : Option Char :=
  c.rest.head?

/-- The cursor behind some characters of the same line. -/
def skip (c : Cursor) (count : Nat) : Cursor :=
  { c with rest := c.rest.drop count, index := c.index + count, column := c.column + count }

/-- The first characters that satisfy a test, which no line end does, and the cursor behind
them. -/
def span (c : Cursor) (test : Char → Bool) : List Char × Cursor :=
  let found := c.rest.takeWhile test
  (found, c.skip found.length)

/-- A span and the rest behind it make up the text. -/
theorem span_append (c : Cursor) (test : Char → Bool) :
    (c.span test).1 ++ (c.span test).2.rest = c.rest := by
  have h : ∀ s : List Char, s.takeWhile test ++ s.drop (s.takeWhile test).length = s := by
    intro s
    induction s with
    | nil => rfl
    | cons a rest ih => by_cases ha : test a <;> simp [ha, ih]
  exact h c.rest

/-- The cursor behind the first characters that satisfy a test. -/
def skipWhile (c : Cursor) (test : Char → Bool) : Cursor :=
  (c.span test).2

/-- What a line end stands for in a scalar, and the beginning of the next line. -/
def readBreak? (c : Cursor) : Option (List Char × Cursor) :=
  let next := fun (rest : List Char) (count : Nat) =>
    { rest := rest, index := c.index + count, line := c.line + 1, column := 0 : Cursor }
  match c.rest with
  | '\r' :: '\n' :: rest => some (['\n'], next rest 2)
  | b :: rest =>
    if b == '\u2028' || b == '\u2029' then some ([b], next rest 1)
    else if isBreak b then some (['\n'], next rest 1)
    else none
  | [] => none

/-- Whether a line begins here that marks the start or the end of a document. -/
def atDocumentMark (c : Cursor) : Bool :=
  c.column == 0 && (c.rest.take 3 == ['-', '-', '-'] || c.rest.take 3 == ['.', '.', '.']) &&
    atGap (c.rest.drop 3)

/-- The cursor behind the comment that begins here, if one does. -/
def skipComment (c : Cursor) : Cursor :=
  if c.head? == some '#' then c.skipWhile (!isBreak ·) else c

/-- The cursor behind the blanks, the comment and the line end that finish a line. -/
def finishLine? (c : Cursor) : Option Cursor :=
  let c := (c.skipWhile isBlank).skipComment
  match c.readBreak? with
  | some (_, next) => some next
  | none => if c.rest.isEmpty then some c else none

end Cursor

end ColumnSelection.Yaml
