import ColumnSelection.Proofs.CompactText
import ColumnSelection.Proofs.Outcome
import ColumnSelection.Proofs.ValueEquality
import ColumnSelection.Table.JsonLines

/-!
# Rows written on lines

A batch of records can be written with the compact text of each record on a line of its own, or of
each payload where no record has an identifier and no payload looks like a record. Blank lines may
stand anywhere. Provided that the values involved read back from their compact texts, the table of
such a text is the table of the batch, and where the batch has none, the failure is the same.
-/
namespace ColumnSelection

namespace Text

/-- A line with nothing but blanks on it. -/
structure IsBlankLine (line : String) : Prop where
  oneLine : OneLine line
  blank : ∀ c ∈ line.toList, isBlank c = true

instance : DecidablePred IsBlankLine := fun line =>
  decidable_of_iff (OneLine line ∧ line.toList.all isBlank = true)
    ⟨fun h => ⟨h.1, List.all_eq_true.mp h.2⟩, fun h => ⟨h.oneLine, List.all_eq_true.mpr h.blank⟩⟩

/-- Texts on lines of their own, in their order, with any number of blank lines before, between and
behind them. -/
inductive Spaced : List String → List String → Prop where
  | nil : Spaced [] []
  | text (text : String) {texts lines : List String} (rest : Spaced texts lines) :
      Spaced (text :: texts) (text :: lines)
  | blank {line : String} (h : IsBlankLine line) {texts lines : List String}
      (rest : Spaced texts lines) : Spaced texts (line :: lines)

/-- A text on one line that ends with something on it. -/
structure FillsLine (text : String) : Prop where
  oneLine : OneLine text
  last : ∃ c ∈ text.toList.getLast?, isBlank c = false

variable {text line : String} {texts lines : List String}

theorem IsBlankLine.trim_eq (h : IsBlankLine line) : trim line = "" := by
  rw [← String.toList_inj, toList_trim]
  exact trimBy_eq_nil_iff.mpr h.blank

theorem FillsLine.trim_ne (h : FillsLine text) : trim text ≠ "" := by
  obtain ⟨c, hc, hblank⟩ := h.last
  rw [← String.toList_inj.ne, toList_trim]
  intro hnil
  have hc' := trimBy_eq_nil_iff.mp hnil c (List.mem_of_getLast? hc)
  rw [hblank] at hc'
  cases hc'

theorem FillsLine.toList_ne_nil (h : FillsLine text) : text.toList ≠ [] := by
  obtain ⟨c, hc, -⟩ := h.last
  exact List.ne_nil_of_mem (List.mem_of_getLast? hc)

theorem FillsLine.chopReturn_eq (h : FillsLine text) :
    chopReturn '\r' text.toList = text.toList := by
  obtain ⟨c, hc, hblank⟩ := h.last
  have hreturn : c ≠ '\r' := by
    rintro rfl
    revert hblank
    decide
  rw [chopReturn, Option.mem_def.mp hc]
  exact if_neg (by simpa using hreturn)

theorem chopReturn_subset (line : List Char) : chopReturn '\r' line ⊆ line := by
  rw [chopReturn]
  split_ifs
  · exact List.dropLast_subset line
  · exact List.Subset.refl line

theorem IsBlankLine.of_subset (h : IsBlankLine line) {chars : List Char}
    (hsub : chars ⊆ line.toList) : IsBlankLine (String.ofList chars) where
  oneLine := h.oneLine.of_subset hsub
  blank c hc := by
    rw [String.toList_ofList] at hc
    exact h.blank c (hsub hc)

theorem Spaced.oneLine (h : Spaced texts lines) (htexts : ∀ text ∈ texts, FillsLine text) :
    ∀ line ∈ lines, OneLine line := by
  induction h with
  | nil => simp
  | text text _ ih =>
    rw [List.forall_mem_cons] at htexts ⊢
    exact ⟨htexts.1.oneLine, ih htexts.2⟩
  | blank h _ ih =>
    rw [List.forall_mem_cons]
    exact ⟨h.oneLine, ih htexts⟩

/-- Taking off a carriage return or an empty last line leaves blank lines blank, and takes nothing
from a line with a text on it. -/
theorem Spaced.linesOfPieces (h : Spaced texts lines) (htexts : ∀ text ∈ texts, FillsLine text) :
    Spaced texts ((Text.linesOfPieces '\r' (lines.map String.toList)).map String.ofList) := by
  induction h with
  | nil => exact .nil
  | @text text texts lines rest ih =>
    rw [List.forall_mem_cons] at htexts
    cases lines with
    | nil =>
      cases rest
      simpa [Text.linesOfPieces, htexts.1.toList_ne_nil] using Spaced.text text .nil
    | cons next more =>
      simp only [List.map_cons, Text.linesOfPieces, htexts.1.chopReturn_eq, String.ofList_toList]
      exact .text text (ih htexts.2)
  | @blank line hline texts lines rest ih =>
    cases lines with
    | nil =>
      cases rest
      simp only [List.map_cons, List.map_nil, Text.linesOfPieces]
      split_ifs
      · exact .nil
      · exact .blank (hline.of_subset (List.Subset.refl _)) .nil
    | cons next more =>
      simp only [List.map_cons, Text.linesOfPieces]
      exact .blank (hline.of_subset (chopReturn_subset _)) (ih htexts)

theorem Spaced.lines_join (h : Spaced texts lines) (htexts : ∀ text ∈ texts, FillsLine text) :
    Spaced texts (Text.lines (join "\n" lines)) := by
  rcases eq_or_ne lines [] with rfl | hne
  · cases h
    exact .nil
  · have hpieces : pieces (· == '\n') (join "\n" lines).toList = lines.map String.toList := by
      rw [← map_toList_splitAt]
      exact congrArg (List.map String.toList) (splitAt_join hne (h.oneLine htexts))
    rw [Text.lines, hpieces]
    exact h.linesOfPieces htexts

end Text

namespace Record

/-- A text that stands for the record on a line. -/
structure IsRowText (r : Record) (text : String) : Prop where
  fills : Text.FillsLine text
  reads : ∃ j, Json.parse? text = some j ∧ ofRow? j = some r

/-- A record that its payload can stand for: it has no identifier, and the payload is an object with
no entry that would be taken for a payload itself. -/
structure IsBare (r : Record) : Prop where
  noId : r.id = none
  object : r.payload.isObject = true
  noPayload : r.payload.get? "payload" = none

theorem ofRow?_toJson (r : Record) : ofRow? r.toJson = some r := by
  obtain ⟨id, payload⟩ := r
  cases id <;> rfl

section bare

variable {r : Record} (h : r.IsBare)
include h

theorem IsBare.exists_payload_eq : ∃ fields, r.payload = .obj fields := by
  have hobject := h.object
  cases hpayload : r.payload with
  | obj fields => exact ⟨fields, rfl⟩
  | _ =>
    rw [hpayload] at hobject
    cases hobject

theorem IsBare.ofRow?_payload : ofRow? r.payload = some r := by
  obtain ⟨fields, hfields⟩ := h.exists_payload_eq
  have hnone := h.noPayload
  rw [hfields, Json.get?] at hnone
  rw [hfields, ofRow?, hnone, ← hfields, ← h.noId]

end bare

theorem isRowText_compact {r : Record} {fields : List (String × Json)}
    (hback : (Json.obj fields).ReadsBack) (hrow : ofRow? (.obj fields) = some r) :
    r.IsRowText (Json.obj fields).compact := by
  obtain ⟨inside, hinside⟩ := Json.exists_toList_compact_obj fields
  refine ⟨⟨Json.oneLine_compact _, '}', ?_, by decide⟩, _, hback, hrow⟩
  rw [hinside, ← List.cons_append, List.getLast?_concat]
  rfl

end Record

namespace Table

open Record

variable {records : List Record} {texts lines : List String}

/-- Blank lines are passed over, and every text is read to its record. -/
theorem readRows_spaced (h : Text.Spaced texts lines) (hrows : List.Forall₂ IsRowText records texts)
    (number : Nat) : readRows number (lines.map some) = .ok records := by
  induction h generalizing records number with
  | nil =>
    cases hrows
    rfl
  | text text rest ih =>
    cases hrows with
    | cons hrow hrest =>
      obtain ⟨j, hparse, hrecord⟩ := hrow.reads
      have hnonempty : (Text.trim text).isEmpty = false := by
        simpa [String.isEmpty_iff] using hrow.fills.trim_ne
      rw [List.map_cons, readRows, hnonempty, hparse]
      simp only [Bool.false_eq_true, if_false, hrecord, ih hrest (number + 1)]
      rfl
  | blank hline rest ih =>
    rw [List.map_cons, readRows, hline.trim_eq]
    exact ih hrows (number + 1)

theorem ofJsonLines_spaced (h : Text.Spaced texts lines)
    (hrows : List.Forall₂ IsRowText records texts) :
    ofJsonLines (Text.join "\n" lines) = ofRecords records := by
  have hfills : ∀ text ∈ texts, Text.FillsLine text := by
    intro text htext
    obtain ⟨r, -, hrow⟩ := exists_mem_of_forall₂ hrows htext
    exact hrow.fills
  rw [ofJsonLines, readRows_spaced (h.lines_join hfills) hrows]
  rfl

/-- Records on lines of their own are read back, whatever their payloads, and so are the payloads of
records that these can stand for. -/
theorem ofJsonLines_eq_ofRecords (records : List Record) (lines : List String) :
    ((∀ r ∈ records, r.toJson.ReadsBack) →
      Text.Spaced (records.map fun r => r.toJson.compact) lines →
      ofJsonLines (Text.join "\n" lines) = ofRecords records) ∧
    ((∀ r ∈ records, r.IsBare ∧ r.payload.ReadsBack) →
      Text.Spaced (records.map fun r => r.payload.compact) lines →
      ofJsonLines (Text.join "\n" lines) = ofRecords records) := by
  have hwritten : ∀ write : Record → String, (∀ r ∈ records, r.IsRowText (write r)) →
      Text.Spaced (records.map write) lines →
      ofJsonLines (Text.join "\n" lines) = ofRecords records := by
    intro write hrows h
    exact ofJsonLines_spaced h (List.forall₂_map_right_iff.mpr (List.forall₂_same.mpr hrows))
  constructor
  · intro hback
    apply hwritten
    intro r hr
    exact isRowText_compact (hback r hr) r.ofRow?_toJson
  · intro hbare
    apply hwritten
    intro r hr
    obtain ⟨hr, hback⟩ := hbare r hr
    obtain ⟨fields, hfields⟩ := hr.exists_payload_eq
    have hrow := hr.ofRow?_payload
    rw [hfields] at hback hrow ⊢
    exact isRowText_compact hback hrow

/-- Payloads hold the keys of a record at other depths, identifiers are missing, empty or hold a
line feed, and the lines between hold blanks of several kinds. The second batch has no table. -/
theorem ofJsonLines_eq_ofRecords_spaced :
    let records : List Record :=
      [⟨none, .obj [("payload", .obj [("id", .int 1)]), ("id", .null)]⟩, ⟨some "", .obj []⟩,
        ⟨some "a\nb", .obj [("payload", .obj []), ("id", .str "é")]⟩]
    let lines := ["", "\x7b\"payload\":\x7b\"payload\":\x7b\"id\":1\x7d,\"id\":null\x7d\x7d",
      " \t\r", "\u00a0", "\x7b\"id\":\"\",\"payload\":\x7b\x7d\x7d",
      "\x7b\"id\":\"a\\nb\",\"payload\":\x7b\"payload\":\x7b\x7d,\"id\":\"é\"\x7d\x7d", ""]
    let bare : List Record :=
      [⟨none, .obj [("id", .int 7), ("g", .obj [("payload", .int 1)])]⟩,
        ⟨none, .obj [("g", .bool true)]⟩]
    let bareLines := ["\x7b\"id\":7,\"g\":\x7b\"payload\":1\x7d\x7d", "", "\x7b\"g\":true\x7d"]
    (∀ r ∈ records, r.toJson.ReadsBack) ∧
      Text.Spaced (records.map fun r => r.toJson.compact) lines ∧
      ofJsonLines (Text.join "\n" lines) = ofRecords records ∧
      (∃ tree, ofRecords records = .ok ⟨tree, records⟩) ∧
      (∀ r ∈ bare, r.IsBare ∧ r.payload.ReadsBack) ∧
      Text.Spaced (bare.map fun r => r.payload.compact) bareLines ∧
      ofJsonLines (Text.join "\n" bareLines) = ofRecords bare ∧
      ofRecords bare = .error (.schema (.conflict "g" "bool")) := by
  intro records lines bare bareLines
  have hback : ∀ r ∈ records, r.toJson.ReadsBack := by
    simp only [Json.ReadsBack]
    decide +kernel
  have htexts : (records.map fun r => r.toJson.compact) = [lines[1], lines[4], lines[5]] := by
    decide +kernel
  have hspaced : Text.Spaced (records.map fun r => r.toJson.compact) lines := by
    rw [htexts]
    refine .blank (by decide) (.text _ (.blank (by decide) (.blank (by decide) ?_)))
    exact .text _ (.text _ (.blank (by decide) .nil))
  have hbareBack : ∀ r ∈ bare, r.payload.ReadsBack := by
    simp only [Json.ReadsBack]
    decide +kernel
  have hbare : ∀ r ∈ bare, r.IsBare ∧ r.payload.ReadsBack := by
    refine fun r hr => ⟨?_, hbareBack r hr⟩
    rcases List.mem_cons.mp hr with rfl | hr
    · exact ⟨rfl, rfl, rfl⟩
    · obtain rfl := List.mem_singleton.mp hr
      exact ⟨rfl, rfl, rfl⟩
  have hbareTexts : (bare.map fun r => r.payload.compact) = [bareLines[0], bareLines[2]] := by
    decide +kernel
  have hbareSpaced : Text.Spaced (bare.map fun r => r.payload.compact) bareLines := by
    rw [hbareTexts]
    exact .text _ (.blank (by decide) (.text _ .nil))
  refine ⟨hback, hspaced, (ofJsonLines_eq_ofRecords records lines).1 hback hspaced, ⟨_, rfl⟩, hbare,
    hbareSpaced, (ofJsonLines_eq_ofRecords bare bareLines).2 hbare hbareSpaced, rfl⟩

end Table

end ColumnSelection
