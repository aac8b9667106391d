import ColumnSelection.Yaml.Cursor
import ColumnSelection.Yaml.Node

/-!
# From tokens to a document

The grammar of YAML over tokens. A text holds one document at most, behind directives if it has
any. Tags are written out with what their handles stand for. The number of an anchor is the number
of different names given to anchors before it.
-/
namespace ColumnSelection.Yaml

/-- What is left to read, and the names of anchors with their numbers. -/
structure TokenState where
  tokens : List Token
  names : List (String × Nat) := []

/-- A reader of tokens, which may fail. -/
abbrev TokenReader := StateT TokenState Option

namespace TokenReader

def peek : TokenReader (Option Token) := do
  return (← get).tokens.head?

/-- Passes over one token. -/
def pass : TokenReader Unit :=
  modify fun s => { s with tokens := s.tokens.drop 1 }

/-- Gives a name to the node that is being read. -/
def define (name : String) : TokenReader Nat := do
  let s ← get
  let number := s.names.length
  let others := s.names.filter fun entry => entry.1 ≠ name
  set { s with names := (name, number) :: others }
  return number

/-- The number of a name. -/
def find (name : String) : TokenReader Nat := do
  match (← get).names.lookup name with
  | some number => return number
  | none => failure

/-- A tag with what its handle stands for. -/
def writtenOut (handles : List (String × String)) (handle rest : String) : TokenReader String :=
  if handle = "" then return rest
  else
    match handles.lookup handle with
    | some start => return start ++ rest
    | none => failure

/-- Reads an anchor if there is one. -/
def anchor? : TokenReader (Option Nat) := do
  match ← peek with
  | some (.anchor name) => do
    pass
    return some (← define name)
  | _ => return none

/-- Reads a tag if there is one. -/
def tag? (handles : List (String × String)) : TokenReader (Option String) := do
  match ← peek with
  | some (.tag handle rest) => do
    pass
    return some (← writtenOut handles handle rest)
  | _ => return none

/-- Reads an anchor and a tag in either order. -/
def marks (handles : List (String × String)) : TokenReader Marks := do
  match ← anchor? with
  | some anchor => return ⟨some anchor, ← tag? handles⟩
  | none => do
    let tag ← tag? handles
    return ⟨← anchor?, tag⟩

/-- A scalar. The tag that is a mere exclamation mark changes nothing on it. -/
def scalarNode (m : Marks) (text : String) (isPlain : Bool) : Node :=
  .scalar (if m.tag = some "!" then { m with tag := none } else m) text isPlain

/-- Whether the token ends an item that was left out, or is missing itself. -/
def endsItem (ends : List Token) : Option Token → Bool
  | some token => ends.contains token
  | none => false

/-- Reads a node unless one of some tokens comes first. -/
def nodeBefore (node : TokenReader Node) (ends : List Token) : TokenReader Node := do
  if endsItem ends (← peek) then return .missing {} else node

mutual

/-- Reads a node. Block collections are read in block style only, and a sequence that is not
indented more than its key only as a part of a mapping. -/
def node (handles : List (String × String)) (inBlock inMapping : Bool) : Nat → TokenReader Node
  | 0 => failure
  | fuel + 1 => do
    match ← peek with
    | some (.reference name) => do
      pass
      return .reference (← find name)
    | _ => do
      let m ← marks handles
      match ← peek with
      | some .blockEntry =>
        if inMapping then return .sequence m (← sameLevelItems handles fuel)
        else if m = {} then failure
        else return .missing m
      | some (.scalar text isPlain) => do
        pass
        return scalarNode m text isPlain
      | some .flowSequenceStart => do
        pass
        return .sequence m (← flowItems handles true fuel)
      | some .flowMappingStart => do
        pass
        return .mapping m (← flowEntries handles true fuel)
      | token =>
        if inBlock && token == some .blockSequenceStart then do
          pass
          return .sequence m (← blockItems handles fuel)
        else if inBlock && token == some .blockMappingStart then do
          pass
          return .mapping m (← blockEntries handles fuel)
        else if m = {} then failure
        else return .missing m
termination_by structural fuel => fuel

/-- Reads the items of a block sequence and its end. -/
def blockItems (handles : List (String × String)) : Nat → TokenReader (List Node)
  | 0 => failure
  | fuel + 1 => do
    match ← peek with
    | some .blockEntry => do
      pass
      let item ← nodeBefore (node handles true false fuel) [.blockEntry, .blockEnd]
      return item :: (← blockItems handles fuel)
    | some .blockEnd => do
      pass
      return []
    | _ => failure
termination_by structural fuel => fuel

/-- Reads the items of a sequence that stands at the column of the keys around it. -/
def sameLevelItems (handles : List (String × String)) : Nat → TokenReader (List Node)
  | 0 => failure
  | fuel + 1 => do
    match ← peek with
    | some .blockEntry => do
      pass
      let item ← nodeBefore (node handles true false fuel) [.blockEntry, .key, .value, .blockEnd]
      return item :: (← sameLevelItems handles fuel)
    | _ => return []
termination_by structural fuel => fuel

/-- Reads the entries of a block mapping and its end. -/
def blockEntries (handles : List (String × String)) : Nat → TokenReader (List (Node × Node))
  | 0 => failure
  | fuel + 1 => do
    let part := nodeBefore (node handles true true fuel) [.key, .value, .blockEnd]
    match ← peek with
    | some .key => do
      pass
      let key ← part
      if (← peek) = some .value then
        pass
        let value ← part
        return (key, value) :: (← blockEntries handles fuel)
      else return (key, .missing {}) :: (← blockEntries handles fuel)
    | some .blockEnd => do
      pass
      return []
    | _ => failure
termination_by structural fuel => fuel

/-- Reads the items of a flow sequence and its end. An item with a key is a mapping of one entry;
where its key is left out, the token behind the sign for keys is passed over. -/
def flowItems (handles : List (String × String)) (isFirst : Bool) : Nat → TokenReader (List Node)
  | 0 => failure
  | fuel + 1 => do
    if (← peek) ≠ some .flowSequenceEnd ∧ !isFirst then
      if (← peek) = some .flowEntry then pass else failure
    match ← peek with
    | some .flowSequenceEnd => do
      pass
      return []
    | some .key => do
      pass
      let ends := [Token.value, .flowEntry, .flowSequenceEnd]
      let isMissing := endsItem ends (← peek)
      let key ← nodeBefore (node handles false false fuel) ends
      if isMissing then pass
      let value ←
        if (← peek) = some .value then do
          pass
          nodeBefore (node handles false false fuel) [.flowEntry, .flowSequenceEnd]
        else pure (.missing {})
      return .mapping {} [(key, value)] :: (← flowItems handles false fuel)
    | _ => do
      let item ← node handles false false fuel
      return item :: (← flowItems handles false fuel)
termination_by structural fuel => fuel

/-- Reads the entries of a flow mapping and its end. -/
def flowEntries (handles : List (String × String)) (isFirst : Bool) :
    Nat → TokenReader (List (Node × Node))
  | 0 => failure
  | fuel + 1 => do
    if (← peek) ≠ some .flowMappingEnd ∧ !isFirst then
      if (← peek) = some .flowEntry then pass else failure
    match ← peek with
    | some .flowMappingEnd => do
      pass
      return []
    | some .key => do
      pass
      let key ← nodeBefore (node handles false false fuel) [.value, .flowEntry, .flowMappingEnd]
      let value ←
        if (← peek) = some .value then do
          pass
          nodeBefore (node handles false false fuel) [.flowEntry, .flowMappingEnd]
        else pure (.missing {})
      return (key, value) :: (← flowEntries handles false fuel)
    | _ => do
      let key ← node handles false false fuel
      return (key, .missing {}) :: (← flowEntries handles false fuel)
termination_by structural fuel => fuel

end

/-- Reads directives. A version is given once, and is one that is known; a handle is given once. -/
def directives (hasVersion : Bool) (handles : List (String × String)) :
    Nat → TokenReader (List (String × String))
  | 0 => failure
  | fuel + 1 => do
    match ← peek with
    | some (.version major minor) =>
      if !hasVersion && major == 1 && (minor == 1 || minor == 2) then do
        pass
        directives true handles fuel
      else failure
    | some (.tagHandle handle start) =>
      if (handles.lookup handle).isSome then failure
      else do
        pass
        directives hasVersion ((handle, start) :: handles) fuel
    | _ => return handles

/-- The handles that need no directive. -/
def commonHandles : List (String × String) :=
  [("!", "!"), ("!!", "tag:yaml.org,2002:")]

/-- Reads marks for the end of a document, and fails if another document follows. -/
def finish : Nat → TokenReader Unit
  | 0 => failure
  | fuel + 1 => do
    match ← peek with
    | none => return
    | some .documentEnd => do
      pass
      finish fuel
    | some _ => failure

/-- Reads a text with one document or none. -/
def document? (fuel : Nat) : TokenReader (Option Node) := do
  match ← peek with
  | none => return none
  | some first => do
    let given ← directives false [] fuel
    let isExplicit := (← peek) == some .documentStart
    let hasDirectives := match first with
      | .version _ _ | .tagHandle _ _ => true
      | _ => false
    if hasDirectives && !isExplicit then failure
    if isExplicit then pass
    let handles := given ++ commonHandles
    let root ← match ← peek with
      | none => pure (.missing {})
      | some (.version _ _) | some (.tagHandle _ _) | some .documentStart => pure (.missing {})
      | some .documentEnd => if isExplicit then pure (.missing {}) else failure
      | some _ => node handles true false fuel
    finish fuel
    return some root

end TokenReader

/-- The document that tokens make up, if there is one. -/
def Node.ofTokens? (tokens : List Token) : Option (Option Node) :=
  (TokenReader.document? (2 * tokens.length + 4)).run' ⟨tokens, []⟩

end ColumnSelection.Yaml
