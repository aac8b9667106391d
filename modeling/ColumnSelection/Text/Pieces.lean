/-!
# Blanks and pieces of text

Blanks are the characters with the Unicode property White_Space. A text is trimmed by removing them
from its ends, and is cut at every character of a class; the pieces between are kept, empty ones
too. Words and lines are both obtained from this one operation, the lines of a file also from its
bytes. Trimming and cutting are defined on lists of characters, so that what they remove can be
stated with the list library.
-/
namespace ColumnSelection.Text

/-- White_Space as Unicode lists it. -/
def isBlank (c : Char) : Bool :=
  let n := c.toNat
  (9 ≤ n && n ≤ 13) || n == 0x20 || n == 0x85 || n == 0xA0 || n == 0x1680 ||
    (0x2000 ≤ n && n ≤ 0x200A) || n == 0x2028 || n == 0x2029 || n == 0x202F || n == 0x205F ||
    n == 0x3000

/-- Removes the longest front whose characters all satisfy `p`. -/
def trimStartBy (p : Char → Bool) (s : List Char) : List Char :=
  s.dropWhile p

/-- Removes the longest back whose characters all satisfy `p`. -/
def trimEndBy (p : Char → Bool) (s : List Char) : List Char :=
  (s.reverse.dropWhile p).reverse

/-- Removes both ends. -/
def trimBy (p : Char → Bool) (s : List Char) : List Char :=
  trimEndBy p (trimStartBy p s)

@[simp] theorem trimBy_nil (p : Char → Bool) : trimBy p [] = [] := rfl

/-- The text without the blanks at its two ends. -/
def trim (s : String) : String :=
  String.ofList (trimBy isBlank s.toList)

@[simp] theorem toList_trim (s : String) : (trim s).toList = trimBy isBlank s.toList := by
  simp [trim]

/-- The pieces of a list between the items satisfying `p`; one more piece than such items. -/
def pieces {α : Type u} (p : α → Bool) : List α → List (List α)
  | [] => [[]]
  | c :: rest =>
    if p c then [] :: pieces p rest
    else match pieces p rest with
      | [] => [[c]]
      | piece :: more => (c :: piece) :: more

theorem pieces_ne_nil {α : Type u} (p : α → Bool) (s : List α) : pieces p s ≠ [] := by
  cases s with
  | nil => simp [pieces]
  | cons c rest =>
    rw [pieces]
    split
    · simp
    · split <;> simp

/-- The pieces of a text between the occurrences of one character. -/
def splitAt (separator : Char) (s : String) : List String :=
  (pieces (· == separator) s.toList).map String.ofList

/-- The texts one after the other with a separator between them. -/
def join (separator : String) : List String → String
  | [] => ""
  | [s] => s
  | s :: t :: rest => s ++ separator ++ join separator (t :: rest)

/-- The maximal runs of characters that are not blank. -/
def words (s : String) : List String :=
  ((pieces isBlank s.toList).filter (!·.isEmpty)).map String.ofList

/-- The text before and after the first occurrence of a character. -/
def splitOnce? (separator : Char) : List Char → Option (List Char × List Char)
  | [] => none
  | c :: rest =>
    if c == separator then some ([], rest)
    else (splitOnce? separator rest).map fun (before, after) => (c :: before, after)

/-- A line as it stands before a line feed, without the carriage return that may end it. -/
def chopReturn {α : Type u} [BEq α] (ret : α) (line : List α) : List α :=
  if line.getLast? == some ret then line.dropLast else line

/-- From the pieces between line feeds to lines: all but the last piece were ended by a line
feed, and an empty last piece is no line. -/
def linesOfPieces {α : Type u} [BEq α] (ret : α) : List (List α) → List (List α)
  | [] => []
  | [last] => if last.isEmpty then [] else [last]
  | piece :: more => chopReturn ret piece :: linesOfPieces ret more

/-- The lines of a text; a line ends at a line feed, together with one carriage return before
it. -/
def lines (s : String) : List String :=
  (linesOfPieces '\r' (pieces (· == '\n') s.toList)).map String.ofList

/-- The lines of a text in UTF-8; a line that is not UTF-8 has no text. -/
def linesOfBytes (bytes : List UInt8) : List (Option String) :=
  (linesOfPieces 13 (pieces (· == 10) bytes)).map fun line =>
    String.fromUTF8? ⟨line.toArray⟩

end ColumnSelection.Text
