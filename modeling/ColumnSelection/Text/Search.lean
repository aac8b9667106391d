import ColumnSelection.Unicode.Casing

/-!
# Letter case and searching

Whether one text stands at the front, at the back or anywhere in another, and the full lower-case
mapping by which texts are compared when letter case does not matter. Two characters depend on more
than the table of lower-case images: a capital sigma at the end of a word becomes the final form,
and a capital I with a dot becomes two characters.
-/
namespace ColumnSelection.Text

open Unicode

/-- The lower-case image of a character on its own. -/
def lowerChar (c : Char) : Char :=
  if c.toNat < 0x80 then c.toLower else Char.ofNat (Stretch.apply lowerTable c.toNat)

/-- Whether the first character that is not case-ignorable is cased. -/
def casedNext (s : List Char) : Bool :=
  match s.dropWhile isCaseIgnorable with
  | [] => false
  | c :: _ => isCased c

/-- The lower-case images of one character that stands between two texts, the first of them read
backwards. -/
def lowerBetween (before : List Char) (c : Char) (after : List Char) : List Char :=
  if c = 'Σ' then
    if casedNext before && !casedNext after then ['ς'] else ['σ']
  else if c = 'İ' then ['i', '\u0307']
  else [lowerChar c]

/-- Lowers the characters of a text, given those already passed in reverse. -/
def lowerFrom (before : List Char) : List Char → List Char
  | [] => []
  | c :: after => lowerBetween before c after ++ lowerFrom (c :: before) after

/-- The lower-case form of a text. -/
def lower (s : String) : String :=
  String.ofList (lowerFrom [] s.toList)

/-- Lower case of the ASCII letters only. -/
def lowerAscii (s : String) : String :=
  String.ofList (s.toList.map Char.toLower)

/-- Whether a list of characters occurs as a contiguous part of another. -/
def occursIn (needle : List Char) : List Char → Bool
  | [] => needle.isEmpty
  | c :: rest => needle.isPrefixOf (c :: rest) || occursIn needle rest

theorem occursIn_iff (needle s : List Char) : occursIn needle s ↔ needle <:+: s := by
  induction s with
  | nil => simp [occursIn, List.isEmpty_iff]
  | cons c rest ih =>
    rw [occursIn, Bool.or_eq_true, List.isPrefixOf_iff_prefix, ih, List.infix_cons_iff]

/-- Whether the text contains another. -/
def contains (s needle : String) : Bool :=
  occursIn needle.toList s.toList

/-- Whether the text begins with another. -/
def startsWith (s front : String) : Bool :=
  front.toList.isPrefixOf s.toList

/-- Whether the text ends with another. -/
def endsWith (s back : String) : Bool :=
  back.toList.isSuffixOf s.toList

end ColumnSelection.Text
