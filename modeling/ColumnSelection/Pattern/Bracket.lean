import ColumnSelection.Pattern.Escape

/-!
# Bracketed classes

The set written between brackets: characters, ranges, named and nested classes, and the operations
between sets. Without Unicode a class holds ASCII characters only and has no complement.
-/
namespace ColumnSelection.Pattern

open Unicode (Ranges)

/-- The operations between sets in a class. -/
inductive SetOp where
  | intersection
  | difference
  | symmetricDifference
deriving DecidableEq, Repr

/-- The result of an operation. -/
def SetOp.apply : SetOp → Ranges → Ranges → Ranges
  | .intersection => Pattern.intersection
  | .difference => Pattern.difference
  | .symmetricDifference => Pattern.symmetricDifference

/-- The set closed under case where the flags ask for it. -/
def foldBy (f : Flags) (r : Ranges) : Ranges :=
  if !f.ignoreCase then r else if f.unicode then closeUnderCase r else closeUnderAsciiCase r

/-- The set closed under case, or its complement, which only Unicode sets have. -/
def foldAndNegate? (f : Flags) (negated : Bool) (r : Ranges) : Option Ranges :=
  let folded := foldBy f r
  if !negated then some (normalize folded)
  else if f.unicode then some (complement folded) else none

/-- A part of a class with the number of levels that it adds to the nesting. -/
structure ClassPart where
  set : Ranges
  level : Nat

/-- A set read so far: the parts of the union being read, and the operation that waits for it
together with the set on its left. -/
structure ClassState where
  parts : List ClassPart := []
  pending : Option (SetOp × ClassPart) := none

namespace ClassState

/-- Adds a part to the union. -/
def add (s : ClassState) (set : Ranges) (level : Nat) : ClassState :=
  { s with parts := ⟨set, level⟩ :: s.parts }

/-- The union of the parts. -/
def whole (s : ClassState) : ClassPart :=
  match s.parts with
  | [part] => part
  | parts =>
    ⟨parts.foldl (fun r part => part.set ++ r) [],
      if parts.isEmpty then 0 else 1 + (parts.map ClassPart.level).foldl max 0⟩

/-- The set after the operation that waits has been carried out. -/
def close (f : Flags) (s : ClassState) : ClassPart :=
  match s.pending with
  | none => s.whole
  | some (op, left) =>
    let right := s.whole
    ⟨op.apply (foldBy f left.set) (foldBy f right.set), 1 + max left.level right.level⟩

/-- Begins the right side of an operation. -/
def operate (f : Flags) (s : ClassState) (op : SetOp) : ClassState :=
  { parts := [], pending := some (op, s.close f) }

end ClassState

/-- Reads a class of ASCII characters behind its opening bracket. -/
def readAsciiClass? (s : List Char) : Option (Ranges × Bool × List Char) :=
  match s with
  | ':' :: rest =>
    let (negated, body) := match rest with
      | '^' :: r => (true, r)
      | r => (false, r)
    match body.dropWhile (· ≠ ':') with
    | ':' :: ']' :: after => do
      let set ← asciiClass? (String.ofList (body.takeWhile (· ≠ ':')))
      return (set, negated, after)
    | _ => none
  | _ => none

/-- An element of a class: one character, or a whole set. -/
inductive ClassItem where
  | char (c : Char)
  | set (r : Ranges)

/-- Reads one element of a class. -/
def readClassItem? (f : Flags) (s : List Char) : Option (ClassItem × List Char) :=
  match s with
  | [] => none
  | '\\' :: rest => do
    let (escape, after) ← readEscape? f rest
    match escape with
    | .char c byte =>
      if f.unicode || c.toNat < 0x80 then return (.char c, after)
      else if byte then none else none
    | .short k negated =>
      let r := k.ranges f.unicode
      if !negated then return (.set r, after)
      else if f.unicode then return (.set (complement r), after) else none
    | .named r negated => return (.set (← foldAndNegate? f negated r), after)
    | .look _ => none
  | c :: rest => if f.unicode || c.toNat < 0x80 then some (.char c, rest) else none

/-- Reads one element or a range. A hyphen in front of the closing bracket or of another hyphen
makes no range. -/
def readClassRange? (f : Flags) (s : List Char) : Option (Ranges × List Char) := do
  let (first, rest) ← readClassItem? f s
  let rest := f.skip rest
  let alone : Ranges := match first with
    | .char c => [(c.toNat, c.toNat)]
    | .set r => r
  match rest with
  | [] => none
  | '-' :: behind =>
    match f.skip behind with
    | [] => none
    | c :: more =>
      if c = ']' ∨ c = '-' then return (alone, rest)
      else
        let (last, after) ← readClassItem? f (c :: more)
        match first, last with
        | .char a, .char b => if a ≤ b then return ([(a.toNat, b.toNat)], after) else none
        | _, _ => none
  | rest => return (alone, rest)

/-- Reads the hyphens that open a class, and a closing bracket directly behind its opening. -/
def readClassFront? (f : Flags) (state : ClassState) : Nat → List Char →
    Option (ClassState × List Char)
  | 0, _ => none
  | fuel + 1, s =>
    match s with
    | [] => none
    | '-' :: rest => readClassFront? f (state.add [(45, 45)] 0) fuel (f.skip rest)
    | ']' :: rest =>
      if state.parts.isEmpty then
        match f.skip rest with
        | [] => none
        | rest => some (state.add [(93, 93)] 0, rest)
      else some (state, s)
    | s => some (state, s)

mutual

/-- Reads a class behind its opening bracket, with the number of levels that it has. -/
def readClass? (f : Flags) : Nat → List Char → Option (ClassPart × List Char)
  | 0, _ => none
  | fuel + 1, s => do
    let s := f.skip s
    let (negated, s) := match s with
      | '^' :: rest => (true, f.skip rest)
      | s => (false, s)
    let (state, s) ← readClassFront? f {} (s.length + 1) s
    let (part, after) ← readClassBody? f state fuel s
    return (⟨← foldAndNegate? f negated part.set, part.level + 1⟩, after)
termination_by structural fuel => fuel

/-- Reads the rest of a class up to its closing bracket. -/
def readClassBody? (f : Flags) (state : ClassState) : Nat → List Char →
    Option (ClassPart × List Char)
  | 0, _ => none
  | fuel + 1, s =>
    match f.skip s with
    | [] => none
    | '[' :: rest =>
      match readAsciiClass? rest with
      | some (set, negated, after) => do
        readClassBody? f (state.add (← foldAndNegate? f negated set) 0) fuel after
      | none => do
        let (part, after) ← readClass? f fuel rest
        readClassBody? f (state.add part.set part.level) fuel after
    | ']' :: after => some (state.close f, after)
    | '&' :: '&' :: rest => readClassBody? f (state.operate f .intersection) fuel rest
    | '-' :: '-' :: rest => readClassBody? f (state.operate f .difference) fuel rest
    | '~' :: '~' :: rest => readClassBody? f (state.operate f .symmetricDifference) fuel rest
    | s => do
      let (set, after) ← readClassRange? f s
      readClassBody? f (state.add set 0) fuel after
termination_by structural fuel => fuel

end

end ColumnSelection.Pattern
