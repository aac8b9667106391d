import ColumnSelection.Yaml.Label
import ColumnSelection.Yaml.Scalar.Block
import ColumnSelection.Yaml.Scalar.Flow

/-!
# The layout of YAML text

The tokens of a text. Where a colon shows that what stands before it in the line is a key, the token
for keys is put in front of that, together with the start of a mapping when the key is indented
more than the collection around it.
-/
namespace ColumnSelection.Yaml

/-- A place that turns out to begin a key if a colon follows in time. -/
structure KeyPlace where
  /-- The number of tokens before it. -/
  position : Nat
  /-- The colon has to follow, since the place is where the entries of a mapping begin. -/
  isRequired : Bool
  index : Nat
  line : Nat
  column : Nat

structure Layout where
  cursor : Cursor
  tokens : Array Token := #[]
  /-- The least column inside the innermost block collection, zero outside all of them. -/
  margin : Nat := 0
  outerMargins : List Nat := []
  /-- Whether a key may begin here. -/
  allowsKey : Bool := true
  keyPlace : Option KeyPlace := none
  /-- The places of keys around the open flow collections. -/
  outerPlaces : List (Option KeyPlace) := []

namespace Layout

def inFlow (s : Layout) : Bool :=
  !s.outerPlaces.isEmpty

def add (s : Layout) (token : Token) : Layout :=
  { s with tokens := s.tokens.push token }

def moveTo (s : Layout) (c : Cursor) : Layout :=
  { s with cursor := c }

/-- Inserts a token behind the given number of tokens. -/
def insert (s : Layout) (position : Nat) (token : Token) : Layout :=
  { s with tokens := s.tokens.insertIdxIfInBounds position token }

/-- Passes over blanks, comments and line ends. Where a key may begin in block style tabs are not
passed over. -/
def skipGaps (s : Layout) : Nat → Layout
  | 0 => s
  | fuel + 1 =>
    let tabs := s.inFlow || !s.allowsKey
    let c := (s.cursor.skipWhile fun b => b == ' ' || (tabs && b == '\t')).skipComment
    match c.readBreak? with
    | some (_, next) =>
      skipGaps { s with cursor := next, allowsKey := s.allowsKey || !s.inFlow } fuel
    | none => s.moveTo c

/-- A place for a key as long as a colon may follow: in the same line, at most 1024 characters
later. -/
def freshPlace? (c : Cursor) : Option KeyPlace → Option (Option KeyPlace)
  | none => some none
  | some p =>
    if p.line < c.line ∨ p.index + 1024 < c.index then
      if p.isRequired then none else some none
    else some (some p)

/-- Gives up the places for which no colon may follow any more. -/
def dropStale? (s : Layout) : Option Layout := do
  let place ← freshPlace? s.cursor s.keyPlace
  let outer ← s.outerPlaces.mapM (freshPlace? s.cursor)
  return { s with keyPlace := place, outerPlaces := outer }

/-- Gives up the innermost place. -/
def dropPlace? (s : Layout) : Option Layout :=
  if s.keyPlace.any KeyPlace.isRequired then none else some { s with keyPlace := none }

/-- Notes that a key may begin here. -/
def notePlace? (s : Layout) : Option Layout :=
  let c := s.cursor
  if s.allowsKey then do
    let isRequired := !s.inFlow && s.margin == c.column + 1
    let s ← s.dropPlace?
    return { s with keyPlace := some ⟨s.tokens.size, isRequired, c.index, c.line, c.column⟩ }
  else some s

/-- Ends the block collections whose entries stand right of a margin. -/
def closeDown (s : Layout) (margin : Nat) : List Nat → Layout
  | [] => s
  | outer :: more =>
    if margin < s.margin then
      closeDown { s.add .blockEnd with margin := outer, outerMargins := more } margin more
    else s

/-- Ends the block collections whose entries stand right of a margin; inside flow collections
indentation has no meaning. -/
def closeTo (s : Layout) (margin : Nat) : Layout :=
  if s.inFlow then s else s.closeDown margin s.outerMargins

/-- Starts a block collection at a column unless one is open there. Its token stands behind the
given number of tokens. -/
def openAt (s : Layout) (column position : Nat) (start : Token) : Layout :=
  if s.inFlow || column < s.margin then s
  else
    { s.insert position start with
      margin := column + 1
      outerMargins := s.margin :: s.outerMargins }

/-- Begins an entry of a block collection with a token of one character. -/
def beginEntry? (s : Layout) (start : Token) : Option Layout :=
  if s.inFlow then some s
  else if s.allowsKey then some (s.openAt s.cursor.column s.tokens.size start)
  else none

/-- Reads a token of some characters that leaves no place for a key before it. -/
def mark? (s : Layout) (token : Token) (count : Nat) (allowsKey : Bool) : Option Layout := do
  let s ← s.dropPlace?
  return { s.add token with cursor := s.cursor.skip count, allowsKey := allowsKey }

/-- Reads the colon before a value. -/
def readValue? (s : Layout) : Option Layout :=
  match s.keyPlace with
  | some p =>
    let s := (s.insert p.position .key).openAt p.column p.position .blockMappingStart
    some { s.add .value with cursor := s.cursor.skip 1, allowsKey := false, keyPlace := none }
  | none => do
    let s ← s.beginEntry? .blockMappingStart
    s.mark? .value 1 (!s.inFlow)

/-- Begins a flow collection. -/
def openFlow? (s : Layout) (token : Token) : Option Layout := do
  let s ← s.notePlace?
  return { s.add token with
    cursor := s.cursor.skip 1
    allowsKey := true
    keyPlace := none
    outerPlaces := s.keyPlace :: s.outerPlaces }

/-- Ends a flow collection. -/
def closeFlow? (s : Layout) (token : Token) : Option Layout := do
  let s ← s.mark? token 1 false
  match s.outerPlaces with
  | [] => return s
  | place :: more => return { s with keyPlace := place, outerPlaces := more }

/-- Reads what may be a key as a whole or begin one. -/
def content? (s : Layout) (read : Cursor → Option (Token × Cursor)) : Option Layout := do
  let s ← s.notePlace?
  let (token, c) ← read s.cursor
  return { s.add token with cursor := c, allowsKey := false }

/-- Reads a quoted scalar. -/
def quoted? (s : Layout) (q : Quote) : Option Layout :=
  s.content? fun c => (readQuoted? q (c.skip 1)).map fun (text, c) => (.scalar text false, c)

/-- Reads a plain scalar. A key may begin in a line behind it. -/
def plain? (s : Layout) : Option Layout := do
  let s ← s.notePlace?
  let (text, hasBreak, c) ← readPlain? s.inFlow s.margin s.cursor
  return { s.add (.scalar text true) with cursor := c, allowsKey := hasBreak }

/-- Reads a block scalar. -/
def block? (s : Layout) (folded : Bool) : Option Layout := do
  let s ← s.dropPlace?
  let (text, c) ← readBlock? folded s.margin (s.cursor.skip 1)
  return { s.add (.scalar text false) with cursor := c, allowsKey := true }

/-- Reads a directive. -/
def directive? (s : Layout) : Option Layout := do
  let s ← (s.closeTo 0).dropPlace?
  let (token, c) ← readDirective? (s.cursor.skip 1)
  return { s.add token with cursor := c, allowsKey := false }

/-- Whether a plain scalar may begin with the character. -/
def canBeginPlain (inFlow : Bool) (c : Char) (rest : List Char) : Bool :=
  if c = '-' then !rest.head?.any isBlank
  else if c = '?' ∨ c = ':' then !inFlow && !atGap rest
  else
    let reserved := ['#', '&', '*', '!', '|', '>', '\'', '"', '%', '@', '\x60']
    !(isFlowMark c || c ∈ reserved || atGap [c])

/-- Reads the token that begins here. -/
def step? (s : Layout) (c : Char) (rest : List Char) : Option Layout :=
  if s.cursor.column = 0 ∧ c = '%' then s.directive?
  else if s.cursor.atDocumentMark then
    (s.closeTo 0).mark? (if c = '-' then .documentStart else .documentEnd) 3 false
  else if c = '[' then s.openFlow? .flowSequenceStart
  else if c = '\x7b' then s.openFlow? .flowMappingStart
  else if c = ']' then s.closeFlow? .flowSequenceEnd
  else if c = '\x7d' then s.closeFlow? .flowMappingEnd
  else if c = ',' then s.mark? .flowEntry 1 true
  else if c = '-' ∧ atGap rest then do
    (← s.beginEntry? .blockSequenceStart).mark? .blockEntry 1 true
  else if c = '?' ∧ (s.inFlow || atGap rest) then do
    (← s.beginEntry? .blockMappingStart).mark? .key 1 (!s.inFlow)
  else if c = ':' ∧ (s.inFlow || atGap rest) then s.readValue?
  else if c = '*' then
    s.content? fun c => (readName? (c.skip 1)).map fun (name, c) => (.reference name, c)
  else if c = '&' then
    s.content? fun c => (readName? (c.skip 1)).map fun (name, c) => (.anchor name, c)
  else if c = '!' then s.content? (readTag? s.inFlow)
  else if c = '|' ∧ !s.inFlow then s.block? false
  else if c = '>' ∧ !s.inFlow then s.block? true
  else if c = '\'' then s.quoted? .single
  else if c = '"' then s.quoted? .double
  else if canBeginPlain s.inFlow c rest then s.plain?
  else none

/-- Reads tokens up to the end of the text. -/
def run? : Nat → Layout → Option Layout
  | 0, _ => none
  | fuel + 1, s => do
    let s ← (s.skipGaps (fuel + 1)).dropStale?
    let s := s.closeTo (s.cursor.column + 1)
    match s.cursor.rest with
    | [] => (s.closeTo 0).dropPlace?
    | c :: rest => run? fuel (← s.step? c rest)

end Layout

/-- The tokens of a text. A mark of the byte order may stand in front. -/
def Token.ofText? (text : String) : Option (List Token) :=
  let chars := match text.toList with
    | '\ufeff' :: rest => rest
    | chars => chars
  if chars.all isAllowed then
    (Layout.run? (chars.length + 1) { cursor := ⟨chars, 0, 0, 0⟩ }).map fun s => s.tokens.toList
  else none

end ColumnSelection.Yaml
