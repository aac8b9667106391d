import ColumnSelection.Program.Reader
import ColumnSelection.Proofs.TextPieces

/-!
# Reading line by line

A text in line syntax is read one line after the other, each with the variables bound so far. The
two modes of the reader differ at a faulty line alone. What a text begins with decides its form,
and that is the beginning of its first line with something on it.
-/
namespace ColumnSelection.Program

/-- One reading and behind it another one, which began with the variables of the first. -/
def Reading.append (first second : Reading) : Reading :=
  ⟨⟨first.program.steps ++ second.program.steps⟩, first.warnings ++ second.warnings,
    second.bindings⟩

namespace Reader

/-- The reader in one of its two modes. -/
def inMode (strict : Bool) (r : Reader) : Reader :=
  { r with strict := strict }

section modes

variable {strict : Bool} {r : Reader}

@[simp] theorem strict_inMode : (r.inMode strict).strict = strict := rfl

@[simp] theorem allowVariables_inMode :
    (r.inMode strict).allowVariables = r.allowVariables := rfl

@[simp] theorem readStepLine_inMode : (r.inMode strict).readStepLine = r.readStepLine := rfl

end modes

/-- How one line is read in the lenient and in the strict mode with the variables bound so far. -/
inductive LineReading (bindings : Bindings) :
    Except Failure Reading → Except Failure Reading → Prop where
  | blank : LineReading bindings (.ok ⟨⟨[]⟩, [], bindings⟩) (.ok ⟨⟨[]⟩, [], bindings⟩)
  | binding (name : String) (value : Json) :
      LineReading bindings (.ok ⟨⟨[]⟩, [], Entries.put name value bindings⟩)
        (.ok ⟨⟨[]⟩, [], Entries.put name value bindings⟩)
  | step (step : Step) :
      LineReading bindings (.ok ⟨⟨[step]⟩, [], bindings⟩) (.ok ⟨⟨[step]⟩, [], bindings⟩)
  | faulty (warning : String) (e : Failure) :
      LineReading bindings (.ok ⟨⟨[]⟩, [warning], bindings⟩) (.error e)

theorem lineReading (r : Reader) (number : Nat) (bindings : Bindings) (line : String) :
    LineReading bindings ((r.inMode false).readLinesFrom number bindings [line])
      ((r.inMode true).readLinesFrom number bindings [line]) := by
  simp only [readLinesFrom, allowVariables_inMode, strict_inMode, readStepLine_inMode,
    Bool.false_eq_true, if_false, if_true]
  split_ifs
  · exact .blank
  · cases readBinding (Text.trim line) with
    | ok entry => exact .binding entry.1 entry.2
    | error e => exact .faulty _ _
  · cases r.readStepLine bindings (Text.trim line) with
    | ok step => exact .step step
    | error e => exact .faulty _ _

/-- Several lines are read one by one. -/
theorem readLinesFrom_cons (r : Reader) (number : Nat) (bindings : Bindings) (line : String)
    (rest : List String) :
    r.readLinesFrom number bindings (line :: rest) = do
      let first ← r.readLinesFrom number bindings [line]
      let second ← r.readLinesFrom (number + 1) first.bindings rest
      return first.append second := by
  -- A line puts nothing, its step or its warning in front of what the rest is read to.
  have hblank : ∀ (bindings : Bindings) (x : Except Failure Reading),
      x = x >>= fun second => pure (Reading.append ⟨⟨[]⟩, [], bindings⟩ second) := by
    intro bindings x
    cases x <;> rfl
  have hstep : ∀ (step : Step) (x : Except Failure Reading),
      (x >>= fun reading => pure (Reading.addStep step reading)) =
        x >>= fun second => pure (Reading.append ⟨⟨[step]⟩, [], bindings⟩ second) := by
    intro step x
    cases x <;> rfl
  have hwarning : ∀ (warning : String) (x : Except Failure Reading),
      (x >>= fun reading => pure (Reading.addWarning warning reading)) =
        x >>= fun second => pure (Reading.append ⟨⟨[]⟩, [warning], bindings⟩ second) := by
    intro warning x
    cases x <;> rfl
  simp only [readLinesFrom]
  split_ifs
  · exact hblank bindings _
  · cases readBinding (Text.trim line) with
    | ok entry => exact hblank _ _
    | error e => rfl
  · cases readBinding (Text.trim line) with
    | ok entry => exact hblank _ _
    | error e => exact hwarning _ _
  · cases r.readStepLine bindings (Text.trim line) with
    | ok step => exact hstep step _
    | error e => rfl
  · cases r.readStepLine bindings (Text.trim line) with
    | ok step => exact hstep step _
    | error e => exact hwarning _ _

variable {r : Reader} {number : Nat} {bindings : Bindings}

theorem readLinesFrom_blank (r : Reader) (number : Nat) (bindings : Bindings)
    (rest : List String) :
    r.readLinesFrom number bindings ("" :: rest) =
      r.readLinesFrom (number + 1) bindings rest := by
  have hblank : isIgnored (Text.trim "") = true := by decide
  rw [readLinesFrom]
  exact if_pos hblank

/-- The blanks at the ends of a line do not matter. -/
theorem readLinesFrom_cons_congr {line line' : String} {rest rest' : List String}
    (htrim : Text.trim line = Text.trim line')
    (hrest : ∀ number bindings,
      r.readLinesFrom number bindings rest = r.readLinesFrom number bindings rest') :
    r.readLinesFrom number bindings (line :: rest) =
      r.readLinesFrom number bindings (line' :: rest') := by
  have hline : r.readLinesFrom number bindings [line] = r.readLinesFrom number bindings [line'] := by
    simp only [readLinesFrom, htrim]
  rw [readLinesFrom_cons, readLinesFrom_cons r number bindings line', hline]
  simp only [hrest]

theorem trim_chopReturn (piece : List Char) :
    Text.trim (String.ofList (Text.chopReturn '\r' piece)) = Text.trim (String.ofList piece) := by
  rw [Text.chopReturn]
  split_ifs with h
  · obtain ⟨front, rfl⟩ := List.getLast?_eq_some_iff.mp (beq_iff_eq.mp h)
    rw [List.dropLast_concat, ← String.toList_inj, Text.toList_trim, Text.toList_trim,
      String.toList_ofList, String.toList_ofList, Text.trimBy_concat (by decide)]
  · rfl

/-- The carriage returns at line ends and an empty last piece make no difference to the reader. -/
theorem readLinesFrom_take_linesOfPieces (r : Reader) (k number : Nat) (bindings : Bindings)
    (pieces : List (List Char)) :
    r.readLinesFrom number bindings
        (((Text.linesOfPieces '\r' pieces).map String.ofList).take k) =
      r.readLinesFrom number bindings ((pieces.map String.ofList).take k) := by
  induction pieces generalizing k number bindings with
  | nil => rfl
  | cons piece rest ih =>
    cases k with
    | zero => rfl
    | succ k =>
      cases rest with
      | nil =>
        rw [Text.linesOfPieces]
        split_ifs with hempty
        · simp only [List.isEmpty_iff.mp hempty, List.map_cons, List.map_nil,
            List.take_succ_cons, List.take_nil]
          exact (readLinesFrom_blank r number bindings []).symm
        · rfl
      | cons next more =>
        exact readLinesFrom_cons_congr (trim_chopReturn piece) fun number bindings =>
          ih k number bindings

theorem readLinesFrom_take_lines (r : Reader) (k number : Nat) (bindings : Bindings)
    (source : String) :
    r.readLinesFrom number bindings ((Text.lines source).take k) =
      r.readLinesFrom number bindings ((Text.splitAt '\n' source).take k) :=
  readLinesFrom_take_linesOfPieces r k number bindings _

theorem readLines_eq (r : Reader) (source : String) :
    r.readLines source = r.readLinesFrom 1 r.bindings (Text.splitAt '\n' source) := by
  have hlines := readLinesFrom_take_lines r
    (max (Text.lines source).length (Text.splitAt '\n' source).length) 1 r.bindings source
  rwa [List.take_of_length_le (le_max_left _ _), List.take_of_length_le (le_max_right _ _)]
    at hlines

section stepLines

/-- An operator and a text behind it that can be told apart on a line. -/
structure Separable (operator text : String) : Prop where
  operator_ne : operator ≠ ""
  noBlank : ∀ c ∈ operator.toList, Text.isBlank c = false
  text_ne : text ≠ ""
  trimmed : Text.trim text = text

theorem toList_stepLine (operator text : String) :
    (operator ++ " " ++ text).toList = operator.toList ++ ' ' :: text.toList := by
  simp

variable {operator text : String} (h : Separable operator text)
include h

theorem Separable.trim_line : Text.trim (operator ++ " " ++ text) = operator ++ " " ++ text := by
  obtain ⟨c, rest, hcons⟩ : ∃ c rest, operator.toList = c :: rest :=
    List.exists_cons_of_ne_nil (by simpa [String.toList_eq_nil_iff] using h.operator_ne)
  have htext : text.toList ≠ [] := by
    simpa [String.toList_eq_nil_iff] using h.text_ne
  have htrimmed : Text.trimBy Text.isBlank text.toList = text.toList := by
    rw [← Text.toList_trim, h.trimmed]
  rw [← String.toList_inj, Text.toList_trim, toList_stepLine]
  refine Text.trimBy_eq_self (fun d hd => ?_) fun d hd => ?_
  · rw [hcons] at hd
    obtain rfl : c = d := Option.some.inj hd
    exact h.noBlank c (hcons ▸ List.mem_cons_self)
  · rw [List.getLast?_append_cons, List.getLast?_cons_of_ne_nil htext] at hd
    exact Text.getLast?_of_trimBy htrimmed d hd

/-- The operator ends at the first blank, and the configuration is what stands behind it. -/
theorem Separable.readStepLine_eq (r : Reader) (bindings : Bindings) :
    r.readStepLine bindings (operator ++ " " ++ text) = do
      let config ← lineConfig text
      return ⟨operator, ← r.settle bindings config⟩ := by
  have hletter : ∀ c ∈ operator.toList, (!Text.isBlank c) = true := by
    simpa using h.noBlank
  have hspace : ¬ (!Text.isBlank ' ') = true := by decide
  have htake : (operator.toList ++ ' ' :: text.toList).takeWhile (!Text.isBlank ·) =
      operator.toList := by
    rw [List.takeWhile_append_of_pos hletter,
      List.takeWhile_cons_of_neg (p := (!Text.isBlank ·)) hspace, List.append_nil]
  have hdrop : ((operator.toList ++ ' ' :: text.toList).dropWhile (!Text.isBlank ·)).drop 1 =
      text.toList := by
    rw [List.dropWhile_append_of_pos hletter,
      List.dropWhile_cons_of_neg (p := (!Text.isBlank ·)) hspace, List.drop_one, List.tail_cons]
  have hoperator : operator.toList.isEmpty = false := by
    simpa [List.isEmpty_iff, String.toList_eq_nil_iff] using h.operator_ne
  rw [readStepLine, toList_stepLine, htake, hdrop, String.ofList_toList, String.ofList_toList,
    h.trimmed, hoperator]
  rfl

end stepLines

section forms

theorem prefix_append_cons_iff {α : Type} {c : α} {w : List α} (hc : c ∉ w) (s rest : List α) :
    w <+: s ++ c :: rest ↔ w <+: s := by
  induction s generalizing w with
  | nil =>
    cases w with
    | nil => simp
    | cons d w =>
      rw [List.nil_append, List.cons_prefix_cons]
      simp only [List.mem_cons, not_or] at hc
      simp [Ne.symm hc.1]
  | cons d s ih =>
    cases w with
    | nil => simp
    | cons e w =>
      rw [List.cons_append, List.cons_prefix_cons, List.cons_prefix_cons,
        ih (List.not_mem_of_not_mem_cons hc)]

/-- The first piece with something on it, without the blanks in front. -/
def opening : List (List Char) → List Char
  | [] => []
  | piece :: rest =>
    if (piece.dropWhile Text.isBlank).isEmpty then opening rest else piece.dropWhile Text.isBlank

theorem opening_of_blank {lines : List String} (h : ∀ line ∈ lines, line = "") :
    opening (lines.map String.toList) = [] := by
  induction lines with
  | nil => rfl
  | cons line rest ih =>
    rw [List.forall_mem_cons] at h
    rw [List.map_cons, h.1]
    exact ih h.2

/-- What the text made of pieces begins with is what its opening begins with. -/
theorem prefix_dropWhile_intercalate_iff {w : List Char} (hw : '\n' ∉ w)
    (pieces : List (List Char)) :
    w <+: (['\n'].intercalate pieces).dropWhile Text.isBlank ↔ w <+: opening pieces := by
  induction pieces with
  | nil => rfl
  | cons piece rest ih =>
    rw [opening]
    cases rest with
    | nil =>
      rw [List.intercalate_singleton]
      split_ifs with hempty
      · rw [List.isEmpty_iff.mp hempty, opening]
      · rfl
    | cons next more =>
      rw [List.intercalate_cons_cons, List.append_assoc, List.dropWhile_append]
      split_ifs
      · exact ih
      · exact prefix_append_cons_iff hw _ _

/-- A text is in line syntax when its first line with something on it is not the beginning of a
document. -/
theorem formOf_eq_lines_iff (source : String) :
    formOf source = .lines ↔
      ∀ mark ∈ ["\x7b", "[", "steps:", "selection:", "- "],
        ¬ mark.toList <+: opening (Text.pieces (· == '\n') source.toList) := by
  have hform : ∀ a b c d e : Bool,
      (if a || b then Form.json else if c || d || e then .yaml else .lines) = .lines ↔
        ¬ a = true ∧ ¬ b = true ∧ ¬ c = true ∧ ¬ d = true ∧ ¬ e = true := by decide
  have hstarts : ∀ mark : String, '\n' ∉ mark.toList →
      (Text.startsWith (String.ofList (Text.trimStartBy Text.isBlank source.toList)) mark = true ↔
        mark.toList <+: opening (Text.pieces (· == '\n') source.toList)) := by
    intro mark hmark
    rw [Text.startsWith, List.isPrefixOf_iff_prefix, String.toList_ofList, Text.trimStartBy,
      ← prefix_dropWhile_intercalate_iff hmark, Text.pieces_eq_splitOnP,
      ← List.splitOn_eq_splitOnP, List.intercalate_splitOn]
  rw [formOf, hform, hstarts _ (by decide), hstarts _ (by decide), hstarts _ (by decide),
    hstarts _ (by decide), hstarts _ (by decide)]
  simp only [List.forall_mem_cons, List.not_mem_nil, false_imp_iff, implies_true, and_true]

/-- What a text of one line is that begins like no other form of a program and like no other line:
the step on it. -/
theorem read_stepLine {r : Reader} {source : String} (hnonempty : source ≠ "")
    (hnewline : '\n' ∉ source.toList) (htrim : Text.trim source = source)
    (hnever : ∀ mark ∈ ["\x7b", "[", "steps:", "selection:", "- ", "#", "//", "$"],
      ¬ mark.toList <+: source.toList) :
    r.read source =
      match r.readStepLine r.bindings source with
      | .ok step => .ok ⟨⟨[step]⟩, [], r.bindings⟩
      | .error e =>
        if r.strict then .error (.validation (.stepLine 1 e.message))
        else .ok ⟨⟨[]⟩, [s!"Line {1}: {e.message}"], r.bindings⟩ := by
  have hpieces : Text.pieces (· == '\n') source.toList = [source.toList] := by
    refine Text.pieces_eq_singleton fun c hc => beq_eq_false_iff_ne.mpr ?_
    rintro rfl
    exact hnewline hc
  have hform : formOf source = .lines := by
    have hdrop : source.toList.dropWhile Text.isBlank = source.toList := by
      refine Text.dropWhile_eq_self_of_trimBy ?_
      rw [← Text.toList_trim, htrim]
    have hopening : opening [source.toList] = source.toList := by
      rw [opening, opening, hdrop]
      split_ifs with hempty
      · exact (List.isEmpty_iff.mp hempty).symm
      · rfl
    rw [formOf_eq_lines_iff, hpieces, hopening]
    exact fun mark hmark => hnever mark (List.mem_append_left ["#", "//", "$"] hmark)
  have hstarts : ∀ mark ∈ ["#", "//", "$"], Text.startsWith source mark = false := by
    intro mark hmark
    rw [← Bool.not_eq_true, Text.startsWith, List.isPrefixOf_iff_prefix]
    exact hnever mark (List.mem_append_right ["\x7b", "[", "steps:", "selection:", "- "] hmark)
  have hignored : isIgnored source = false := by
    rw [isIgnored, hstarts "#" (by decide), hstarts "//" (by decide)]
    simpa [String.isEmpty_iff] using hnonempty
  rw [read, hform, readAs, readLines_eq, Text.splitAt, hpieces]
  simp only [List.map_cons, List.map_nil, String.ofList_toList, readLinesFrom, htrim, hignored,
    hstarts "$" (by decide), Bool.and_false, Bool.false_eq_true, if_false]
  cases r.readStepLine r.bindings source <;> rfl

end forms

end Reader

end ColumnSelection.Program
