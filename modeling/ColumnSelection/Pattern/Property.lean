import ColumnSelection.Pattern.CharSet
import ColumnSelection.Unicode.Age
import ColumnSelection.Unicode.Category
import ColumnSelection.Unicode.Property
import ColumnSelection.Unicode.Script

/-!
# Named character sets

The sets that a pattern can name: properties, general categories, scripts and ages, the short
classes of digits, blanks and word characters, and the classes of ASCII characters. The properties
by which a text is cut into user-perceived characters, words and sentences have no tables of their
own: their values are put together from the other sets, as the standard for text segmentation does.
-/
namespace ColumnSelection.Pattern

open Unicode

/-- A name in lower case without blanks, underscores, hyphens and the word `is` in front. -/
def plainName (name : String) : String :=
  let chars := name.toList
  let isPrefixed := String.ofList ((chars.take 2).map Char.toLower) == "is"
  let kept := (if isPrefixed then chars.drop 2 else chars).filter fun c =>
    c.toNat < 0x80 && c ≠ ' ' && c ≠ '_' && c ≠ '-'
  let plain := String.ofList (kept.map Char.toLower)
  if isPrefixed && plain == "c" then "isc" else plain

/-- The set that a table has under a key. -/
def inTable? (table : List (String × String)) (key : String) : Option Ranges :=
  (table.lookup key).map Ranges.ofText

/-- The characters of a general category or of a group of categories. -/
def category? (name : String) : Option Ranges :=
  match name with
  | "any" => some [(0, maxPoint)]
  | "ascii" => some [(0, 0x7F)]
  | "assigned" => (inTable? categoryTables "cn").map complement
  | name => do
    let codes ← categoryNames.lookup name
    let parts ← codes.mapM (inTable? categoryTables)
    return parts.foldl union []

/-- The characters of a script. -/
def script? (name : String) : Option Ranges := do
  inTable? scriptTables (← scriptNames.lookup name)

/-- The characters used in a script. -/
def scriptExtension? (name : String) : Option Ranges := do
  let script ← scriptNames.lookup name
  (inTable? scriptExtensionTables script).or (inTable? scriptTables script)

/-- The characters with a property. -/
def property? (name : String) : Option Ranges := do
  inTable? propertyTables (← propertyNames.lookup name)

/-- The number of the version that a name stands for, written with a point or, behind a letter,
without one. -/
def versionOf? (name : String) : Option String :=
  (ageTables.map Prod.fst).find? fun version =>
    version == name || ("v" ++ String.ofList (version.toList.filter (· ≠ '.'))) == name

/-- The characters assigned in a version or before. -/
def age? (name : String) : Option Ranges := do
  let version ← versionOf? name
  let upTo := (ageTables.takeWhile (·.1 ≠ version)) ++ (ageTables.filter (·.1 = version))
  return (upTo.map fun (_, text) => Ranges.ofText text).foldl union []

/-- Code points that are listed one by one. -/
def points (ns : List Nat) : Ranges :=
  normalize (ns.map fun n => (n, n))

/-- The characters of several general categories. -/
def inCategories (codes : List String) : Ranges :=
  (codes.map fun code => (inTable? categoryTables code).getD []).foldl union []

/-- The characters of several scripts. -/
def inScripts (codes : List String) : Ranges :=
  (codes.map fun code => (inTable? scriptTables code).getD []).foldl union []

/-- The characters with at least one of several properties. -/
def withProperties (keys : List String) : Ranges :=
  (keys.map fun key => (inTable? propertyTables key).getD []).foldl union []

/-- Signs that stand in front of the digits that they go with. -/
def numberSigns : Ranges :=
  difference (withProperties ["prependedconcatenationmark"]) (points [0x70F])

/-- Decimal digits, the signs in front of them, and what else belongs to numbers in words and
sentences alike. -/
def numeric : Ranges :=
  union (union (inCategories ["nd"]) numberSigns) (points [0x66B, 0x19DA])

/-- Format characters apart from those that are attached to the character before them. -/
def formatting : Ranges :=
  difference (inCategories ["cf"]) (union (withProperties ["graphemeextend"]) (points [0x200D]))

/-- The Hangul syllables that end with their vowel. -/
def openSyllables : Ranges :=
  points ((List.range 399).map fun i => 0xAC00 + 28 * i)

/-- The characters with a value of Grapheme_Cluster_Break. -/
def graphemeBreak? (value : String) : Option Ranges :=
  let extend := withProperties ["graphemeextend", "emojimodifier"]
  let leading := withProperties ["prependedconcatenationmark"]
  match value with
  | "cr" => some (points [0xD])
  | "lf" => some (points [0xA])
  | "zwj" => some (points [0x200D])
  | "ri" | "regionalindicator" => some (withProperties ["regionalindicator"])
  | "ex" | "extend" => some extend
  | "cn" | "control" =>
    let ignorable := intersection (inCategories ["cn"])
      (withProperties ["defaultignorablecodepoint"])
    let controls := union (union (inCategories ["cc", "zl", "zp"]) formatting) ignorable
    some (difference controls (union leading (points [0xA, 0xD])))
  | "pp" | "prepend" =>
    some (union leading [(0xD4E, 0xD4E), (0x111C2, 0x111C3), (0x113D1, 0x113D1),
      (0x1193F, 0x1193F), (0x11941, 0x11941), (0x11A84, 0x11A89), (0x11D46, 0x11D46),
      (0x11F02, 0x11F02)])
  | "sm" | "spacingmark" =>
    let apart : Ranges := [(0x102B, 0x102C), (0x1038, 0x1038), (0x1062, 0x1064), (0x1067, 0x106D),
      (0x1083, 0x1083), (0x1087, 0x108C), (0x108F, 0x108F), (0x109A, 0x109C), (0x1A61, 0x1A61),
      (0x1A63, 0x1A64), (0xAA7B, 0xAA7B), (0xAA7D, 0xAA7D), (0x11720, 0x11721)]
    some (difference (union (inCategories ["mc"]) (points [0xE33, 0xEB3])) (union extend apart))
  | "l" => some [(0x1100, 0x115F), (0xA960, 0xA97C)]
  | "v" => some [(0x1160, 0x11A7), (0xD7B0, 0xD7C6), (0x16D63, 0x16D63), (0x16D67, 0x16D6A)]
  | "t" => some [(0x11A8, 0x11FF), (0xD7CB, 0xD7FB)]
  | "lv" => some openSyllables
  | "lvt" => some (difference [(0xAC00, 0xD7A3)] openSyllables)
  | _ => none

/-- The characters with a value of Word_Break. -/
def wordBreak? (value : String) : Option Ranges :=
  let extend := union (withProperties ["graphemeextend", "emojimodifier"]) (inCategories ["mc"])
  let katakana := union (inScripts ["kana"])
    [(0x3031, 0x3035), (0x309B, 0x309C), (0x30A0, 0x30A0), (0x30FC, 0x30FC), (0xFF70, 0xFF70)]
  let hebrew := intersection (inScripts ["hebr"]) (inCategories ["lo"])
  match value with
  | "cr" => some (points [0xD])
  | "lf" => some (points [0xA])
  | "nl" | "newline" => some (points [0xB, 0xC, 0x85, 0x2028, 0x2029])
  | "zwj" => some (points [0x200D])
  | "ri" | "regionalindicator" => some (withProperties ["regionalindicator"])
  | "extend" => some extend
  | "fo" | "format" =>
    let leading := withProperties ["prependedconcatenationmark"]
    some (difference formatting (union leading (points [0x200B])))
  | "ka" | "katakana" => some katakana
  | "hl" | "hebrewletter" => some hebrew
  | "le" | "aletter" =>
    let letters := union (withProperties ["alphabetic"]) [(0xB8, 0xB8), (0x2C2, 0x2C5),
      (0x2D2, 0x2D7), (0x2DE, 0x2DF), (0x2E5, 0x2EB), (0x2ED, 0x2ED), (0x2EF, 0x2FF),
      (0x55A, 0x55C), (0x55E, 0x55E), (0x58A, 0x58A), (0x5F3, 0x5F3), (0x70F, 0x70F),
      (0xA708, 0xA716), (0xA720, 0xA721), (0xA789, 0xA78A), (0xAB5B, 0xAB5B)]
    -- Scripts that are written without spaces between words, where dictionaries tell these apart.
    let unspaced := union (withProperties ["ideographic"]) (inScripts ["ahom", "hira", "khmr",
      "lana", "laoo", "mymr", "tale", "talu", "tavt", "thai"])
    some (difference letters (union (union extend unspaced) (union katakana hebrew)))
  | "sq" | "singlequote" => some (points [0x27])
  | "dq" | "doublequote" => some (points [0x22])
  | "mb" | "midnumlet" => some (points [0x2E, 0x2018, 0x2019, 0x2024, 0xFE52, 0xFF07, 0xFF0E])
  | "ml" | "midletter" =>
    some (points [0x3A, 0xB7, 0x387, 0x55F, 0x5F4, 0x2027, 0xFE13, 0xFE55, 0xFF1A])
  | "mn" | "midnum" =>
    some (points [0x2C, 0x3B, 0x37E, 0x589, 0x60C, 0x60D, 0x66C, 0x7F8, 0x2044, 0xFE50, 0xFE54,
      0xFF0C, 0xFF1B])
  | "nu" | "numeric" => some numeric
  | "ex" | "extendnumlet" => some (union (inCategories ["pc"]) (points [0x202F]))
  | "wsegspace" => some (difference (inCategories ["zs"]) (points [0xA0, 0x2007, 0x202F]))
  | _ => none

/-- The characters with a value of Sentence_Break. -/
def sentenceBreak? (value : String) : Option Ranges :=
  let extend := union (union (withProperties ["graphemeextend"]) (inCategories ["mc"]))
    (points [0x200D])
  let separators := points [0x85, 0x2028, 0x2029]
  let stops := points [0x2E, 0x2024, 0xFE52, 0xFF0E]
  -- Georgian has two forms of its letters without a difference of case.
  let lower := difference (withProperties ["lowercase"])
    (union (withProperties ["graphemeextend"]) [(0x10D0, 0x10FA), (0x10FD, 0x10FF)])
  let upper := difference (union (inCategories ["lt"]) (withProperties ["uppercase"]))
    [(0x1C90, 0x1CBA), (0x1CBD, 0x1CBF)]
  match value with
  | "cr" => some (points [0xD])
  | "lf" => some (points [0xA])
  | "se" | "sep" => some separators
  | "ex" | "extend" => some extend
  | "fo" | "format" => some (difference formatting numberSigns)
  | "sp" => some (difference (withProperties ["whitespace"]) (union separators (points [0xA, 0xD])))
  | "lo" | "lower" => some lower
  | "up" | "upper" => some upper
  | "le" | "oletter" =>
    let letters := union (withProperties ["alphabetic"]) (points [0x5F3])
    some (difference letters (union (union lower upper) extend))
  | "nu" | "numeric" => some (union numeric (points [0x66C]))
  | "at" | "aterm" => some stops
  | "st" | "sterm" => some (difference (withProperties ["sentenceterminal"]) stops)
  | "cl" | "close" =>
    some (union (inCategories ["pe", "pf", "pi", "ps"]) [(0x22, 0x22), (0x27, 0x27),
      (0x275B, 0x2760), (0x2E00, 0x2E01), (0x2E06, 0x2E08), (0x2E0B, 0x2E0B), (0x1F676, 0x1F678)])
  | "sc" | "scontinue" =>
    some (points [0x2C, 0x2D, 0x3A, 0x3B, 0x37E, 0x55D, 0x60C, 0x60D, 0x7F8, 0x1802, 0x1808, 0x2013,
      0x2014, 0x3001, 0xFE10, 0xFE11, 0xFE13, 0xFE14, 0xFE31, 0xFE32, 0xFE50, 0xFE51, 0xFE54,
      0xFE55, 0xFE58, 0xFE63, 0xFF0C, 0xFF0D, 0xFF1A, 0xFF1B, 0xFF64])
  | _ => none

/-- The set with a single name: of a property, else a category, else a script. Three short names
that stand for properties too mean the categories. -/
def named? (name : String) : Option Ranges :=
  let plain := plainName name
  let reserved := plain = "cf" ∨ plain = "sc" ∨ plain = "lc"
  (if reserved then none else property? plain).or ((category? plain).or (script? plain))

/-- The set with a name made of a kind of property and a value. -/
def valued? (kind value : String) : Option Ranges :=
  let plain := plainName value
  match plainName kind with
  | "gc" | "generalcategory" => category? plain
  | "sc" | "script" => script? plain
  | "scx" | "scriptextensions" => scriptExtension? plain
  | "age" => age? plain
  | "gcb" | "graphemeclusterbreak" => graphemeBreak? plain
  | "wb" | "wordbreak" => wordBreak? plain
  | "sb" | "sentencebreak" => sentenceBreak? plain
  | _ => none

/-- The short classes. -/
inductive ShortClass where
  | digit
  | space
  | word
deriving DecidableEq, Repr

/-- The characters of a short class, among all or in ASCII. -/
def ShortClass.ranges (k : ShortClass) (unicode : Bool) : Ranges :=
  if unicode then
    match k with
    | .digit => (inTable? categoryTables "nd").getD []
    | .space => (inTable? propertyTables "whitespace").getD []
    | .word => wordRanges
  else
    match k with
    | .digit => [(0x30, 0x39)]
    | .space => [(9, 13), (0x20, 0x20)]
    | .word => [(0x30, 0x39), (0x41, 0x5A), (0x5F, 0x5F), (0x61, 0x7A)]

/-- The classes of ASCII characters with names. -/
def asciiClass? (name : String) : Option Ranges :=
  let digit := ('0', '9')
  let upper := ('A', 'Z')
  let lower := ('a', 'z')
  let classes := [
    ("alnum", [digit, upper, lower]), ("alpha", [upper, lower]), ("ascii", [('\x00', '\x7f')]),
    ("blank", [('\t', '\t'), (' ', ' ')]), ("cntrl", [('\x00', '\x1f'), ('\x7f', '\x7f')]),
    ("digit", [digit]), ("graph", [('!', '~')]), ("lower", [lower]), ("print", [(' ', '~')]),
    ("punct", [('!', '/'), (':', '@'), ('[', '\x60'), ('\x7b', '~')]),
    ("space", [('\t', '\r'), (' ', ' ')]), ("upper", [upper]),
    ("word", [digit, upper, ('_', '_'), lower]),
    ("xdigit", [digit, ('A', 'F'), ('a', 'f')])]
  (classes.lookup name).map ofCharRanges

end ColumnSelection.Pattern
