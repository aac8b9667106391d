import ColumnSelection.Json.Printer
import ColumnSelection.Json.Reader
import ColumnSelection.Proofs.TextPieces

/-!
# The compact text of a value

The compact text stands on one line, as strings escape what would end it. The text of an object
stands between braces, and that of an array begins with a bracket. Whether the text is read to the
value again is a matter of each value, above all of its depth and its floats.
-/
namespace ColumnSelection

namespace Text

/-- A text without a line feed. -/
def OneLine (s : String) : Prop :=
  '\n' ∉ s.toList

instance : DecidablePred OneLine :=
  fun s => inferInstanceAs (Decidable ('\n' ∉ s.toList))

variable {s t : String}

@[simp] theorem oneLine_append_iff : OneLine (s ++ t) ↔ OneLine s ∧ OneLine t := by
  rw [OneLine, String.toList_append, List.mem_append, not_or]
  rfl

theorem OneLine.append (hs : OneLine s) (ht : OneLine t) : OneLine (s ++ t) :=
  oneLine_append_iff.mpr ⟨hs, ht⟩

theorem OneLine.of_subset (ht : OneLine t) {chars : List Char} (h : chars ⊆ t.toList) :
    OneLine (String.ofList chars) := by
  rw [OneLine, String.toList_ofList]
  exact fun hmem => ht (h hmem)

theorem oneLine_join {separator : String} {texts : List String} (hseparator : OneLine separator)
    (h : ∀ text ∈ texts, OneLine text) : OneLine (join separator texts) := by
  induction texts with
  | nil => exact List.not_mem_nil
  | cons first rest ih =>
    rw [List.forall_mem_cons] at h
    cases rest with
    | nil => exact h.1
    | cons second more => exact (h.1.append hseparator).append (ih h.2)

theorem oneLine_pushn (hs : OneLine s) {c : Char} (hc : c ≠ '\n') (n : Nat) :
    OneLine (s.pushn c n) := by
  rw [String.pushn_eq_repeat_push]
  induction n with
  | zero => exact hs
  | succ n ih =>
    rw [Nat.repeat, OneLine, String.toList_push, List.mem_append, List.mem_singleton, not_or]
    exact ⟨ih, hc.symm⟩

theorem oneLine_toString (n : Nat) : OneLine (toString n) := by
  rw [OneLine, Nat.toString_eq_ofList_toDigits, String.toList_ofList]
  intro h
  exact absurd (Nat.isDigit_of_mem_toDigits (by decide) (by decide) h) (by decide)

theorem oneLine_toString_int (n : Int) : OneLine (toString n) := by
  have hminus : OneLine "-" := by decide
  cases n with
  | ofNat n => exact oneLine_toString n
  | negSucc n => exact hminus.append (oneLine_toString (n + 1))

end Text

namespace Numeric

open Text

theorem oneLine_withPoint {digits : String} (h : OneLine digits) (count : Int) :
    OneLine (withPoint digits count) := by
  have hempty : OneLine "" := by decide
  have hpoint : OneLine "." := by decide
  have hfront : OneLine "0." := by decide
  have hback : OneLine ".0" := by decide
  have hzero : '0' ≠ '\n' := by decide
  rw [withPoint]
  split_ifs
  · exact (hfront.append (oneLine_pushn hempty hzero _)).append h
  · exact ((h.of_subset (List.take_subset _ _)).append hpoint).append
      (h.of_subset (List.drop_subset _ _))
  · exact (h.append (oneLine_pushn hempty hzero _)).append hback

theorem oneLine_spell (layout : FloatLayout) (x : Binary64) : OneLine (x.spell layout) := by
  have hsign : ∀ negative : Bool, OneLine (if negative then "-" else "") := by decide
  refine (hsign x.negative).append ?_
  have hdigits := oneLine_toString x.shortest.digits
  have hpoint : OneLine "." := by decide
  have hexponent : OneLine "e" := by decide
  have hplus : ∀ plus : Bool, OneLine (if plus then "+" else "") := by decide
  rw [FloatLayout.spell]
  split
  · decide
  · dsimp only
    split
    · exact oneLine_withPoint hdigits _
    · refine ((OneLine.append ?_ hexponent).append ?_).append (oneLine_toString _)
      · split
        · exact hdigits
        · exact ((hdigits.of_subset (List.take_subset _ _)).append hpoint).append
            (hdigits.of_subset (List.drop_subset _ _))
      · split
        · decide
        · exact hplus _

end Numeric

namespace Json

open Text

/-- The compact text of the value is read to the value. -/
def ReadsBack (j : Json) : Prop :=
  parse? j.compact = some j

theorem newline_notMem_escapeChar (c : Char) : '\n' ∉ escapeChar c := by
  have hhex : ∀ n < 16, hexChar n ≠ '\n' := by decide
  rw [escapeChar]
  split_ifs with hquote hslash hbackspace hfeed hnewline hreturn htab hcontrol
  iterate 7 decide
  · have hupper := hhex (c.toNat / 16) (by omega)
    have hlower := hhex (c.toNat % 16) (by omega)
    simp [hupper.symm, hlower.symm]
  · simpa using Ne.symm hnewline

theorem oneLine_quote (s : String) : OneLine (quote s) := by
  have hquote : OneLine "\"" := by decide
  have hinside : OneLine (String.ofList (s.toList.flatMap escapeChar)) := by
    rw [OneLine, String.toList_ofList]
    intro h
    obtain ⟨c, -, hc⟩ := List.mem_flatMap.mp h
    exact newline_notMem_escapeChar c hc
  exact (hquote.append hinside).append hquote

mutual

theorem oneLine_compact : ∀ j : Json, OneLine j.compact
  | .arr items => by
    have hopen : OneLine "[" := by decide
    have hclose : OneLine "]" := by decide
    have hcomma : OneLine "," := by decide
    have hitems := oneLine_join hcomma (oneLine_compactItems items)
    exact (hopen.append hitems).append hclose
  | .obj fields => by
    have hopen : OneLine "\x7b" := by decide
    have hclose : OneLine "\x7d" := by decide
    have hcomma : OneLine "," := by decide
    have hfields := oneLine_join hcomma (oneLine_compactFields fields)
    exact (hopen.append hfields).append hclose
  | .null => by decide
  | .bool true => by decide
  | .bool false => by decide
  | .int n => oneLine_toString_int n
  | .float x => Numeric.oneLine_spell floatLayout x
  | .str s => oneLine_quote s
termination_by structural j => j

theorem oneLine_compactItems : ∀ items : List Json, ∀ text ∈ compactItems items, OneLine text
  | [] => by simp [compactItems]
  | j :: rest => by
    rw [compactItems, List.forall_mem_cons]
    exact ⟨oneLine_compact j, oneLine_compactItems rest⟩
termination_by structural items => items

theorem oneLine_compactFields :
    ∀ fields : List (String × Json), ∀ text ∈ compactFields fields, OneLine text
  | [] => by simp [compactFields]
  | (k, j) :: rest => by
    have hcolon : OneLine ":" := by decide
    rw [compactFields, List.forall_mem_cons]
    exact ⟨((oneLine_quote k).append hcolon).append (oneLine_compact j),
      oneLine_compactFields rest⟩
termination_by structural fields => fields

end

theorem exists_toList_compact_obj (fields : List (String × Json)) :
    ∃ inside, (compact (.obj fields)).toList = '{' :: (inside ++ ['}']) :=
  ⟨(join "," (compactFields fields)).toList, by simp [compact]⟩

theorem exists_toList_compact_arr (items : List Json) :
    ∃ rest, (compact (.arr items)).toList = '[' :: rest :=
  ⟨(join "," (compactItems items)).toList ++ [']'], by simp [compact]⟩

end Json

end ColumnSelection
