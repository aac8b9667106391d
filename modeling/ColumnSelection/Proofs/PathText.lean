import ColumnSelection.Proofs.TextPieces
import ColumnSelection.Selection.Resolve

/-!
# The text of a path

A path can be written with any separator between its names, as long as no name is empty, holds the
separator or has a blank at one of its ends. The text is read back to the path, and reading gives no
other paths, so a reference by the text is the reference by the path.
-/
namespace ColumnSelection

namespace Path

/-- A name that stands for itself between separators. -/
structure IsSegment (separator : Char) (name : String) : Prop where
  nonempty : name ≠ ""
  noSeparator : separator ∉ name.toList
  noBlankFirst : ∀ c ∈ name.toList.head?, Text.isBlank c = false
  noBlankLast : ∀ c ∈ name.toList.getLast?, Text.isBlank c = false

/-- A path that has a text with the separator between its names. -/
structure IsSpellable (separator : Char) (p : Path) : Prop where
  nonempty : p.segments ≠ []
  segments : ∀ name ∈ p.segments, IsSegment separator name

/-- The names with a separator between them. -/
def textWith (separator : Char) (p : Path) : String :=
  Text.join (String.singleton separator) p.segments

variable {separator : Char} {text name : String} {p : Path}

theorem isSegment_iff :
    IsSegment separator name ↔ name ≠ "" ∧ separator ∉ name.toList ∧
      name.toList.head?.any Text.isBlank = false ∧
      name.toList.getLast?.any Text.isBlank = false := by
  have hany : ∀ o : Option Char, o.any Text.isBlank = false ↔ ∀ c ∈ o, Text.isBlank c = false := by
    intro o
    cases o <;> simp
  rw [hany, hany]
  exact ⟨fun h => ⟨h.1, h.2, h.3, h.4⟩, fun h => ⟨h.1, h.2.1, h.2.2.1, h.2.2.2⟩⟩

instance : Decidable (IsSegment separator name) :=
  decidable_of_iff _ isSegment_iff.symm

instance : Decidable (p.IsSpellable separator) :=
  decidable_of_iff (p.segments ≠ [] ∧ ∀ name ∈ p.segments, IsSegment separator name)
    ⟨fun h => ⟨h.1, h.2⟩, fun h => ⟨h.1, h.2⟩⟩

theorem parse_eq_ok_iff :
    parse text separator = .ok p ↔
      p.segments = (Text.splitAt separator text).map Text.trim ∧ "" ∉ p.segments := by
  have hempty : ∀ names : List String, names.any String.isEmpty = true ↔ "" ∈ names := by
    simp [String.isEmpty_iff]
  rw [parse]
  split_ifs with h
  · rw [hempty] at h
    refine iff_of_false (by simp) ?_
    rintro ⟨hsegments, hnot⟩
    exact hnot (hsegments ▸ h)
  · rw [hempty] at h
    constructor
    · rintro ⟨⟩
      exact ⟨rfl, h⟩
    · rintro ⟨hsegments, -⟩
      rw [← hsegments]

theorem IsSegment.trim_eq (h : IsSegment separator name) : Text.trim name = name := by
  rw [← String.toList_inj, Text.toList_trim]
  exact Text.trimBy_eq_self h.noBlankFirst h.noBlankLast

/-- What trimming leaves of a text without the separator is a name, unless nothing is left. -/
theorem isSegment_trim (hseparator : separator ∉ text.toList) (hne : Text.trim text ≠ "") :
    IsSegment separator (Text.trim text) where
  nonempty := hne
  noSeparator := by
    rw [Text.toList_trim]
    exact fun hmem => hseparator (Text.trimBy_subset _ _ hmem)
  noBlankFirst := by
    rw [Text.toList_trim]
    exact Text.head?_trimBy _ _
  noBlankLast := by
    rw [Text.toList_trim]
    exact Text.getLast?_trimBy _ _

theorem IsSpellable.parse_textWith (h : p.IsSpellable separator) :
    parse (p.textWith separator) separator = .ok p := by
  have hsplit : Text.splitAt separator (p.textWith separator) = p.segments :=
    Text.splitAt_join h.nonempty fun name hname => (h.segments name hname).noSeparator
  have htrim : p.segments.map Text.trim = p.segments := by
    rw [List.map_congr_left fun name hname => (h.segments name hname).trim_eq, List.map_id']
  rw [parse_eq_ok_iff, hsplit, htrim]
  exact ⟨rfl, fun hempty => (h.segments "" hempty).nonempty rfl⟩

theorem isSpellable_of_parse (h : parse text separator = .ok p) : p.IsSpellable separator := by
  obtain ⟨hsegments, hempty⟩ := parse_eq_ok_iff.mp h
  refine ⟨?_, fun name hname => ?_⟩
  · rw [hsegments]
    exact fun hnil => Text.splitAt_ne_nil separator text (List.map_eq_nil_iff.mp hnil)
  · have hne : name ≠ "" := ne_of_mem_of_not_mem hname hempty
    rw [hsegments] at hname
    obtain ⟨piece, hpiece, rfl⟩ := List.mem_map.mp hname
    exact isSegment_trim (Text.not_mem_of_mem_splitAt hpiece) hne

theorem resolve_name_of_parse {s : Scope} (hs : s.settings.separator = separator)
    (h : parse text separator = .ok p) :
    (Reference.name text).resolve s = (Reference.path p).resolve s := by
  rw [Reference.resolve, hs, h]
  exact Logged.ok_bind p s.atPath

/-- A path that has a text is read back from it, and a reference by the text is the reference by the
path wherever the separator is the configured one. No text is read to another kind of path. -/
theorem parse_faithful (separator : Char) :
    (∀ p : Path, p.IsSpellable separator →
      parse (p.textWith separator) separator = .ok p ∧
        ∀ s : Scope, s.settings.separator = separator →
          (Reference.name (p.textWith separator)).resolve s = (Reference.path p).resolve s) ∧
      ∀ (text : String) (p : Path), parse text separator = .ok p →
        p.IsSpellable separator ∧ parse (p.textWith separator) separator = .ok p := by
  refine ⟨fun p hp => ?_, fun text p h => ?_⟩
  · have hparse := hp.parse_textWith
    exact ⟨hparse, fun s hs => resolve_name_of_parse hs hparse⟩
  · have hp := isSpellable_of_parse h
    exact ⟨hp, hp.parse_textWith⟩

/-- The separator is a blank itself, and the names hold other blanks and points. -/
theorem parse_faithful_tab :
    let p : Path := ⟨["first name", "a.b"]⟩
    let b := Column.value ⟨"a.b", p, none⟩ ⟨.int, false⟩
    let g := Column.group ⟨"first name", ⟨["first name"]⟩, none⟩ [b]
    let s : Scope := { tree := ⟨[g]⟩, settings := ⟨.fail, '\t'⟩ }
    p.IsSpellable '\t' ∧ parse "first name\ta.b" '\t' = .ok p ∧
      (Reference.name "first name\ta.b").resolve s = .ok [b] ∧
      parse " first name \t\u00a0a.b\n" '\t' = .ok p ∧
      parse (p.textWith '\t') '\t' = .ok p := by
  intro p b g s
  have hp : p.IsSpellable '\t' := by decide
  have htext : p.textWith '\t' = "first name\ta.b" := by decide
  have hblanks : parse " first name \t\u00a0a.b\n" '\t' = .ok p := by rfl
  obtain ⟨hparse, hresolve⟩ := (parse_faithful '\t').1 p hp
  rw [htext] at hparse hresolve
  refine ⟨hp, hparse, ?_, hblanks, ((parse_faithful '\t').2 _ p hblanks).2⟩
  rw [hresolve s rfl]
  rfl

end Path

end ColumnSelection
