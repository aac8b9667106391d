import ColumnSelection.Unicode.Ranges
import ColumnSelection.Yaml.Cursor

/-!
# Scalars that flow over lines

Plain scalars are text without quotes. They end before a comment, before a colon with a gap behind
it and, inside flow collections, before their punctuation; outside them also before a line that is
not indented enough. Quoted scalars stand between single quotes, where a doubled quote stands for
one, or between double quotes, where a backslash begins an escape sequence.
-/
namespace ColumnSelection.Yaml

open Unicode (hexDigit?)

/-- The blanks and line ends between two words of a scalar. Blanks within a line are kept. Around
line ends they are dropped: a single line feed is folded to a space, and of several the first is
dropped. -/
structure Gap where
  blanks : List Char := []
  /-- What each line end stands for; an escaped one stands for nothing. -/
  breaks : List (List Char) := []

namespace Gap

def hasBreak (g : Gap) : Bool :=
  !g.breaks.isEmpty

/-- What the gap contributes to the scalar. -/
def text (g : Gap) : List Char :=
  match g.breaks with
  | [] => g.blanks
  | first :: more =>
    if first = ['\n'] then (if more.isEmpty then [' '] else more.flatten)
    else first ++ more.flatten

/-- Reads on in a gap. Behind a line end no tab may stand left of the column `margin`. The fuel is
more than the number of characters left. -/
def extend? (margin : Nat) : Nat → Gap → Cursor → Option (Gap × Cursor)
  | 0, _, _ => none
  | fuel + 1, g, c =>
    match c.head? with
    | none => some (g, c)
    | some b =>
      if isBlank b then
        if !g.hasBreak then extend? margin fuel { g with blanks := g.blanks ++ [b] } (c.skip 1)
        else if b = '\t' ∧ c.column < margin then none
        else extend? margin fuel g (c.skip 1)
      else
        match c.readBreak? with
        | some (ending, next) => extend? margin fuel { g with breaks := g.breaks ++ [ending] } next
        | none => some (g, c)

end Gap

/-- Whether the character is punctuation of flow collections. -/
def isFlowMark (c : Char) : Bool :=
  c == ',' || c == '[' || c == ']' || c == '\x7b' || c == '\x7d'

/-- The characters of a plain scalar up to a gap or to its end. Inside flow collections a colon
has no punctuation directly behind it. -/
def plainWord? (inFlow : Bool) : List Char → Option (List Char)
  | [] => some []
  | c :: rest =>
    if atGap (c :: rest) then some []
    else if inFlow && c == ':' && rest.head?.any (fun d => isFlowMark d || d == '?') then none
    else if c == ':' && atGap rest then some []
    else if inFlow && isFlowMark c then some []
    else (plainWord? inFlow rest).map (c :: ·)

/-- Reads words, each with the gap before it. The second result says whether a line end was passed
behind the last word. -/
def readPlainWords? (inFlow : Bool) (margin : Nat) :
    Nat → Gap → Cursor → Option (List Char × Bool × Cursor)
  | 0, _, _ => none
  | fuel + 1, gap, c =>
    if c.atDocumentMark || c.head? == some '#' then some ([], gap.hasBreak, c)
    else do
      let word ← plainWord? inFlow c.rest
      if word.isEmpty then return ([], gap.hasBreak, c)
      else
        let text := gap.text ++ word
        let (next, c) ← Gap.extend? margin (fuel + 1) {} (c.skip word.length)
        if next.blanks.isEmpty && !next.hasBreak then return (text, false, c)
        else if !inFlow && c.column < margin then return (text, next.hasBreak, c)
        else
          let (more, hasBreak, c) ← readPlainWords? inFlow margin fuel next c
          return (text ++ more, hasBreak, c)

/-- Reads a plain scalar. Its lines begin at the column `margin` or behind it. -/
def readPlain? (inFlow : Bool) (margin : Nat) (c : Cursor) : Option (String × Bool × Cursor) := do
  let (text, hasBreak, c) ← readPlainWords? inFlow margin (c.rest.length + 1) {} c
  return (String.ofList text, hasBreak, c)

/-- The two kinds of quotes. -/
inductive Quote where
  | single
  | double
deriving DecidableEq, Repr

/-- The character that opens and closes the scalar. -/
def Quote.mark : Quote → Char
  | .single => '\''
  | .double => '"'

/-- The character that a single letter behind a backslash stands for. -/
def escapedChar? (c : Char) : Option Char :=
  List.lookup c [('0', '\x00'), ('a', '\x07'), ('b', '\x08'), ('t', '\t'), ('\t', '\t'),
    ('n', '\n'), ('v', '\x0b'), ('f', '\x0c'), ('r', '\r'), ('e', '\x1b'), (' ', ' '),
    ('"', '"'), ('/', '/'), ('\\', '\\'), ('N', '\u0085'), ('_', '\u00a0'), ('L', '\u2028'),
    ('P', '\u2029')]

/-- The number of hexadecimal digits behind a letter. -/
def escapeLength? (c : Char) : Option Nat :=
  List.lookup c [('x', 2), ('u', 4), ('U', 8)]

/-- The character with the code point that the digits write. -/
def codePoint? (digits : List Char) : Option Char := do
  let values ← digits.mapM hexDigit?
  let n := values.foldl (fun n d => n * 16 + d) 0
  if n < 0xD800 ∨ (0xE000 ≤ n ∧ n ≤ 0x10FFFF) then some (Char.ofNat n) else none

/-- Reads the escape sequence behind a backslash. -/
def readEscape? (c : Cursor) : Option (Char × Cursor) := do
  let letter ← c.head?
  let c := c.skip 1
  match escapeLength? letter with
  | some count =>
    if c.rest.length < count then none
    else return (← codePoint? (c.rest.take count), c.skip count)
  | none => return (← escapedChar? letter, c)

/-- Reads characters up to a gap or to the closing quote. The gap is already begun when the line
end before it is escaped. -/
def readQuotedWord? (q : Quote) : Nat → Cursor → Option (List Char × Gap × Cursor)
  | 0, _ => none
  | fuel + 1, c =>
    match c.rest with
    | [] => some ([], {}, c)
    | b :: rest =>
      if atGap c.rest then some ([], {}, c)
      else if q = .single ∧ b = '\'' ∧ rest.head? = some '\'' then do
        let (word, gap, c) ← readQuotedWord? q fuel (c.skip 2)
        return ('\'' :: word, gap, c)
      else if b = q.mark then some ([], {}, c)
      else if q = .double ∧ b = '\\' then
        match (c.skip 1).readBreak? with
        | some (_, next) => some ([], { breaks := [[]] }, next)
        | none => do
          let (escaped, c) ← readEscape? (c.skip 1)
          let (word, gap, c) ← readQuotedWord? q fuel c
          return (escaped :: word, gap, c)
      else do
        let (word, gap, c) ← readQuotedWord? q fuel (c.skip 1)
        return (b :: word, gap, c)

/-- Reads words and gaps up to the closing quote, which is passed. -/
def readQuotedWords? (q : Quote) : Nat → Cursor → Option (List Char × Cursor)
  | 0, _ => none
  | fuel + 1, c =>
    if c.atDocumentMark || c.rest.isEmpty then none
    else do
      let (word, gap, c) ← readQuotedWord? q (fuel + 1) c
      if c.head? = some q.mark then return (word, c.skip 1)
      else
        let (gap, c) ← gap.extend? 0 (fuel + 1) c
        let (more, c) ← readQuotedWords? q fuel c
        return (word ++ gap.text ++ more, c)

/-- Reads a quoted scalar behind its opening quote. -/
def readQuoted? (q : Quote) (c : Cursor) : Option (String × Cursor) := do
  let (text, c) ← readQuotedWords? q (c.rest.length + 1) c
  return (String.ofList text, c)

end ColumnSelection.Yaml
