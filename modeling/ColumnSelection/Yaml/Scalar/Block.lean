import ColumnSelection.Yaml.Cursor

/-!
# Block scalars

Text in indented lines behind a header. The literal form keeps the line ends; the folded form
makes a space of a single line end between two lines that do not begin with a blank. The header may
give the indentation, and says what becomes of the line ends behind the last line.
-/
namespace ColumnSelection.Yaml

/-- What becomes of the line ends behind the text. -/
inductive Chomping where
  | strip
  /-- Only the first is kept. -/
  | clip
  | keep
deriving DecidableEq, Repr

/-- The chomping that a character of the header stands for. -/
def chomping? (c : Option Char) : Option Chomping :=
  if c = some '+' then some .keep else if c = some '-' then some .strip else none

/-- Reads a digit of the header, none being there as zero; zero itself is not allowed. -/
def readIndentation? (c : Cursor) : Option (Nat × Cursor) :=
  match c.head? with
  | some d =>
    if d = '0' then none
    else if d.isDigit then some (d.toNat - 48, c.skip 1)
    else some (0, c)
  | none => some (0, c)

/-- Reads the two parts of a header in either order, and the end of its line. -/
def readBlockHeader? (c : Cursor) : Option (Chomping × Nat × Cursor) := do
  let (chomping, indentation, c) ← match chomping? c.head? with
    | some chomping => do
      let (indentation, c) ← readIndentation? (c.skip 1)
      some (chomping, indentation, c)
    | none => do
      let (indentation, c) ← readIndentation? c
      match indentation, chomping? c.head? with
      | 0, _ => some (Chomping.clip, 0, c)
      | n, some chomping => some (chomping, n, c.skip 1)
      | n, none => some (Chomping.clip, n, c)
  return (chomping, indentation, ← c.finishLine?)

/-- Reads empty lines and the indentation of the line behind them. Without a given column the
deepest indentation is found. -/
def readEmptyLines? (column : Option Nat) : Nat → Nat → Cursor →
    Option (List Char × Nat × Cursor)
  | 0, _, _ => none
  | fuel + 1, deepest, c =>
    let spaces := c.rest.takeWhile (· == ' ')
    let count := match column with
      | some column => min spaces.length (column - c.column)
      | none => spaces.length
    let c := c.skip count
    let deepest := max deepest c.column
    if column.all (c.column < ·) ∧ c.head? = some '\t' then none
    else
      match c.readBreak? with
      | some (ending, next) => do
        let (breaks, deepest, c) ← readEmptyLines? column fuel deepest next
        return (ending ++ breaks, deepest, c)
      | none => some ([], deepest, c)

/-- What is read of a block scalar before its last line ends are dealt with. -/
structure BlockText where
  text : List Char
  /-- The end of the last line. -/
  ending : List Char
  /-- The line ends behind it. -/
  trailing : List Char
  cursor : Cursor

/-- Reads the lines at a column, given the end of the line before, the line ends behind that, and
whether that line began with a blank. -/
def readBlockLines? (folded : Bool) (column : Nat) :
    Nat → (ending trailing : List Char) → (blankBefore : Bool) → Cursor → Option BlockText
  | 0, _, _, _, _ => none
  | fuel + 1, ending, trailing, blankBefore, c =>
    if c.column = column ∧ !c.rest.isEmpty then do
      let beginsBlank := c.head?.any isBlank
      let join :=
        if folded ∧ ending = ['\n'] ∧ !blankBefore ∧ !beginsBlank then
          (if trailing.isEmpty then [' '] else [])
        else ending
      let (line, c) := c.span (!isBreak ·)
      let (next, c) := c.readBreak?.getD ([], c)
      let (breaks, _, c) ← readEmptyLines? (some column) (fuel + 1) 0 c
      let more ← readBlockLines? folded column fuel next breaks beginsBlank c
      return { more with text := join ++ trailing ++ line ++ more.text }
    else some ⟨[], ending, trailing, c⟩

/-- Reads a block scalar behind the sign of its kind. Its lines are indented to the column `margin`
at least. -/
def readBlock? (folded : Bool) (margin : Nat) (c : Cursor) : Option (String × Cursor) := do
  let (chomping, indentation, c) ← readBlockHeader? c
  let given := if indentation = 0 then none else some (margin - 1 + indentation)
  let (breaks, deepest, c) ← readEmptyLines? given (c.rest.length + 1) 0 c
  let column := given.getD (max deepest (max margin 1))
  let block ← readBlockLines? folded column (c.rest.length + 1) [] breaks false c
  let tail := match chomping with
    | .strip => []
    | .clip => block.ending
    | .keep => block.ending ++ block.trailing
  return (String.ofList (block.text ++ tail), block.cursor)

end ColumnSelection.Yaml
