import ColumnSelection.Failure
import ColumnSelection.Text.Pieces

/-!
# Column paths

A path is the sequence of names from the root of a table to a column. Its text form puts a
separator between the names.
-/
namespace ColumnSelection

/-- The names on the way from the root to a column. -/
@[ext] structure Path where
  segments : List String
deriving DecidableEq, Repr, Inhabited

namespace Path

/-- The empty path. -/
def root : Path := ⟨[]⟩

def length (p : Path) : Nat :=
  p.segments.length

def isRoot (p : Path) : Bool :=
  p.segments.isEmpty

/-- The last name. -/
def name? (p : Path) : Option String :=
  p.segments.getLast?

/-- The path of a column with this name directly below. -/
def child (p : Path) (name : String) : Path :=
  ⟨p.segments ++ [name]⟩

/-- The path without its last name; the root has no parent. -/
def parent? (p : Path) : Option Path :=
  if p.segments.isEmpty then none else some ⟨p.segments.dropLast⟩

/-- The names of one path followed by those of another. -/
def append (p q : Path) : Path :=
  ⟨p.segments ++ q.segments⟩

instance : Append Path := ⟨append⟩

@[simp] theorem segments_root : root.segments = [] := rfl

@[simp] theorem segments_child (p : Path) (name : String) :
    (p.child name).segments = p.segments ++ [name] := rfl

@[simp] theorem segments_append (p q : Path) :
    (p ++ q).segments = p.segments ++ q.segments := rfl

/-- Whether the path begins with the names of another. -/
def startsWith (p q : Path) : Bool :=
  q.segments.isPrefixOf p.segments

/-- Whether another path lies strictly below. -/
def isAncestorOf (p q : Path) : Bool :=
  p.length < q.length && q.startsWith p

theorem startsWith_iff (p q : Path) : p.startsWith q ↔ ∃ r, p = q ++ r := by
  rw [startsWith, List.isPrefixOf_iff_prefix]
  constructor
  · rintro ⟨t, h⟩
    exact ⟨⟨t⟩, Path.ext h.symm⟩
  · rintro ⟨r, rfl⟩
    exact ⟨r.segments, rfl⟩

theorem isAncestorOf_iff (p q : Path) :
    p.isAncestorOf q ↔ ∃ s r, q.segments = p.segments ++ s :: r := by
  rw [isAncestorOf, Bool.and_eq_true, startsWith_iff, decide_eq_true_iff]
  constructor
  · rintro ⟨hl, ⟨t⟩, rfl⟩
    cases t with
    | nil => simp [length] at hl
    | cons s r => exact ⟨s, r, rfl⟩
  · rintro ⟨s, r, h⟩
    exact ⟨by simp [length, h], ⟨s :: r⟩, Path.ext h⟩

/-- The names with points between them. -/
def text (p : Path) : String :=
  Text.join "." p.segments

/-- The order of two lists of names: by the first difference, a shorter list first. -/
def compareNames : List String → List String → Ordering
  | [], [] => .eq
  | [], _ :: _ => .lt
  | _ :: _, [] => .gt
  | a :: p, b :: q => if a < b then .lt else if b < a then .gt else compareNames p q

/-- The lexicographic order of paths. -/
def compare (p q : Path) : Ordering :=
  compareNames p.segments q.segments

/-- The path written with a separator between its names. Blanks around a name are dropped, and
no name may be empty. -/
def parse (text : String) (separator : Char) : Except Failure Path :=
  let segments := (Text.splitAt separator text).map Text.trim
  if segments.any String.isEmpty then .error (.validation (.emptySegment text))
  else .ok ⟨segments⟩

end Path

end ColumnSelection
