import ColumnSelection.Proofs.CompactText
import ColumnSelection.Proofs.Compiling
import ColumnSelection.Proofs.LineReading
import ColumnSelection.Proofs.ValueEquality

/-!
# The written forms of a program

A program can be written as the list of its steps, as an object that has the list under one of two
keys, and as lines with the operator and the configuration of a step on each. Provided that the
values involved read back from their compact texts, all of these are read to the program itself.
-/
namespace ColumnSelection

/-- The step on a line. -/
def Step.line (step : Step) : String :=
  step.operator ++ " " ++ step.config.compact

/-- An operator and a configuration that can be told apart on a line, where the line is taken
neither for a comment nor for a variable. -/
structure Step.FitsLine (step : Step) : Prop where
  nonempty : step.operator ≠ ""
  noBlank : ∀ c ∈ step.operator.toList, Text.isBlank c = false
  noComment : ¬ Text.startsWith step.operator "#" ∧ ¬ Text.startsWith step.operator "//"
  noVariable : ¬ Text.startsWith step.operator "$"
  object : step.config.isObject

namespace Program

/-- The list of the steps. -/
def list (p : Program) : Json :=
  .arr (p.steps.map Step.toJson)

/-- The steps on lines. -/
def lineText (p : Program) : String :=
  Text.join "\n" (p.steps.map Step.line)

/-- Every step fits a line, and the first one is not taken for the beginning of a document. -/
structure FitsLines (p : Program) : Prop where
  steps : ∀ step ∈ p.steps, step.FitsLine
  noDash : ∀ step ∈ p.steps.head?, step.operator ≠ "-"
  noDocument : ∀ step ∈ p.steps.head?,
    ∀ mark ∈ ["\x7b", "[", "steps:", "selection:"], ¬ Text.startsWith step.operator mark

/-- No text in a configuration needs a variable. -/
def FreeOfVariables (p : Program) : Prop :=
  ∀ step ∈ p.steps, ∀ s ∈ step.config.texts,
    ¬ (Text.startsWith s "$\x7b" ∧ Text.endsWith s "\x7d")

namespace Reader

variable {r : Reader} {p : Program} {step : Step}

theorem settle_nil_eq_ok {config : Json}
    (h : ∀ s ∈ config.texts, ¬ (Text.startsWith s "$\x7b" ∧ Text.endsWith s "\x7d")) :
    r.settle [] config = .ok config := by
  rw [settle]
  split_ifs
  · refine substitute_nil.mpr ⟨rfl, fun s hs => ?_⟩
    rw [needsVariable_iff]
    exact h s hs
  · rfl

section documents

theorem readStep_toJson (hr : r.bindings = [])
    (h : ∀ s ∈ step.config.texts, ¬ (Text.startsWith s "$\x7b" ∧ Text.endsWith s "\x7d")) :
    r.readStep step.toJson = .ok step := by
  have hsettle := settle_nil_eq_ok (r := r) h
  rw [Step.toJson, readStep, hr]
  change (r.settle [] step.config >>= _) = _
  rw [hsettle]
  rfl

theorem readSteps_toJson (hr : r.bindings = []) {steps : List Step} (h : FreeOfVariables ⟨steps⟩)
    (index : Nat) : r.readSteps index (steps.map Step.toJson) = .ok (steps, []) := by
  induction steps generalizing index with
  | nil => rfl
  | cons step rest ih =>
    rw [FreeOfVariables, List.forall_mem_cons] at h
    rw [List.map_cons, readSteps, readStep_toJson hr h.1]
    change (r.readSteps (index + 1) (rest.map Step.toJson) >>= _) = _
    rw [ih h.2]
    rfl

theorem readStepList_toJson (hr : r.bindings = []) (h : p.FreeOfVariables) :
    r.readStepList (p.steps.map Step.toJson) = .ok ⟨p, [], []⟩ := by
  rw [readStepList, readSteps_toJson hr h, hr]
  rfl

/-- A text that begins with a brace or a bracket is read as a document. -/
theorem read_of_toList {source : String} {c : Char} {rest : List Char}
    (hc : c = '{' ∨ c = '[') (hsource : source.toList = c :: rest) :
    r.read source = r.readJson source := by
  have hblank : Text.isBlank c = false := by
    rcases hc with rfl | rfl <;> decide
  have hfront : Text.trimStartBy Text.isBlank source.toList = c :: rest := by
    rw [hsource, Text.trimStartBy, List.dropWhile_cons_of_neg (by simp [hblank])]
  have hform : formOf source = .json := by
    have hbrace : "\x7b".toList = ['{'] := rfl
    have hbracket : "[".toList = ['['] := rfl
    rw [formOf, hfront, if_pos]
    rcases hc with rfl | rfl <;> simp [Text.startsWith, hbrace, hbracket]
  rw [read, hform, readAs]

theorem readJson_of_readsBack {document : Json} (h : document.ReadsBack) :
    r.readJson document.compact = r.readDocument document := by
  rw [readJson, h]

theorem read_list (hr : r.bindings = []) (h : p.FreeOfVariables) (hback : p.list.ReadsBack) :
    r.read p.list.compact = .ok ⟨p, [], []⟩ := by
  obtain ⟨rest, hrest⟩ : ∃ rest, p.list.compact.toList = '[' :: rest :=
    Json.exists_toList_compact_arr (p.steps.map Step.toJson)
  rw [read_of_toList (.inr rfl) hrest, readJson_of_readsBack hback]
  exact readStepList_toJson hr h

theorem read_obj_list (hr : r.bindings = []) (h : p.FreeOfVariables) {key : String}
    (hkey : key ∈ ["steps", "selection"]) (hback : (Json.obj [(key, p.list)]).ReadsBack) :
    r.read (Json.obj [(key, p.list)]).compact = .ok ⟨p, [], []⟩ := by
  obtain ⟨inside, hinside⟩ := Json.exists_toList_compact_obj [(key, p.list)]
  rw [read_of_toList (.inl rfl) hinside, readJson_of_readsBack hback, readDocument]
  have hget : (Entries.get? "steps" [(key, p.list)]).or (Entries.get? "selection" [(key, p.list)]) =
      some (.arr (p.steps.map Step.toJson)) := by
    rcases List.mem_cons.mp hkey with rfl | hkey
    · rfl
    · obtain rfl := List.mem_singleton.mp hkey
      rfl
  rw [hget]
  exact readStepList_toJson hr h

end documents

section lines

theorem toList_line (step : Step) :
    step.line.toList = step.operator.toList ++ ' ' :: step.config.compact.toList := by
  simp [Step.line]

theorem exists_toList_compact (h : step.FitsLine) :
    ∃ inside, step.config.compact.toList = '{' :: (inside ++ ['}']) := by
  cases hconfig : step.config with
  | obj fields => exact Json.exists_toList_compact_obj fields
  | _ =>
    have hobject := h.object
    rw [hconfig] at hobject
    cases hobject

/-- What a text without a blank begins the line with, it begins the operator with. -/
theorem startsWith_line_iff {mark : String} (hmark : ' ' ∉ mark.toList) (step : Step) :
    Text.startsWith step.line mark ↔ Text.startsWith step.operator mark := by
  rw [Text.startsWith, Text.startsWith, List.isPrefixOf_iff_prefix, List.isPrefixOf_iff_prefix,
    toList_line, prefix_append_cons_iff hmark]

theorem exists_toList_operator (h : step.FitsLine) :
    ∃ c rest, step.operator.toList = c :: rest ∧ Text.isBlank c = false := by
  cases hoperator : step.operator.toList with
  | nil => exact absurd (String.toList_eq_nil_iff.mp hoperator) h.nonempty
  | cons c rest => exact ⟨c, rest, rfl, h.noBlank c (hoperator ▸ List.mem_cons_self)⟩

theorem dropWhile_line (h : step.FitsLine) :
    step.line.toList.dropWhile Text.isBlank = step.line.toList := by
  obtain ⟨c, rest, hoperator, hc⟩ := exists_toList_operator h
  rw [toList_line, hoperator, List.cons_append, List.dropWhile_cons_of_neg (by simp [hc])]

theorem trim_compact (h : step.FitsLine) :
    Text.trim step.config.compact = step.config.compact := by
  obtain ⟨inside, hinside⟩ := exists_toList_compact h
  rw [← String.toList_inj, Text.toList_trim, hinside]
  refine Text.trimBy_eq_self ?_ ?_
  · rintro _ ⟨⟩
    decide
  · rw [← List.cons_append, List.getLast?_concat]
    rintro _ ⟨⟩
    decide

theorem lineConfig_compact (h : step.FitsLine) (hback : step.config.ReadsBack) :
    lineConfig step.config.compact = .ok step.config := by
  obtain ⟨inside, hinside⟩ := exists_toList_compact h
  have hempty : step.config.compact.isEmpty = false := by
    rw [← Bool.not_eq_true, String.isEmpty_iff, ← String.toList_inj, hinside]
    simp
  have hbrace : Text.startsWith step.config.compact "\x7b" = true := by
    rw [Text.startsWith, hinside]
    rfl
  rw [lineConfig, if_neg (by simp [hempty]), if_pos hbrace, hback]

theorem separable_line (h : step.FitsLine) :
    Separable step.operator step.config.compact where
  operator_ne := h.nonempty
  noBlank := h.noBlank
  text_ne := by
    obtain ⟨inside, hinside⟩ := exists_toList_compact h
    rw [ne_eq, ← String.toList_inj, hinside]
    simp
  trimmed := trim_compact h

theorem readStepLine_line (h : step.FitsLine) (hback : step.config.ReadsBack)
    (hfree : ∀ s ∈ step.config.texts, ¬ (Text.startsWith s "$\x7b" ∧ Text.endsWith s "\x7d")) :
    r.readStepLine [] step.line = .ok step := by
  rw [Step.line, (separable_line h).readStepLine_eq, lineConfig_compact h hback]
  change (r.settle [] step.config >>= _) = _
  rw [settle_nil_eq_ok hfree]
  rfl

theorem readLinesFrom_line (h : step.FitsLine) (hback : step.config.ReadsBack)
    (hfree : ∀ s ∈ step.config.texts, ¬ (Text.startsWith s "$\x7b" ∧ Text.endsWith s "\x7d"))
    (number : Nat) :
    r.readLinesFrom number [] [step.line] = .ok ⟨⟨[step]⟩, [], []⟩ := by
  have hempty : step.line.isEmpty = false := by
    rw [← Bool.not_eq_true, String.isEmpty_iff, ← String.toList_inj, toList_line]
    simp
  have hignored : isIgnored step.line = false := by
    rw [isIgnored, hempty, Bool.false_or, ← Bool.not_eq_true, Bool.or_eq_true, not_or,
      startsWith_line_iff (by decide), startsWith_line_iff (by decide)]
    exact h.noComment
  have hvariable : Text.startsWith step.line "$" = false := by
    rw [← Bool.not_eq_true, startsWith_line_iff (by decide)]
    exact h.noVariable
  have htrim : Text.trim step.line = step.line := (separable_line h).trim_line
  simp only [readLinesFrom, htrim, hignored, hvariable, Bool.and_false, Bool.false_eq_true,
    if_false, readStepLine_line h hback hfree]
  rfl

/-- The lines of steps are read to the steps, whatever comes after them without saying anything. -/
theorem readLinesFrom_lines {steps : List Step} (hfits : ∀ step ∈ steps, step.FitsLine)
    (hback : ∀ step ∈ steps, step.config.ReadsBack) (hfree : FreeOfVariables ⟨steps⟩)
    {rest : List String}
    (hrest : ∀ number, r.readLinesFrom number [] rest = .ok ⟨⟨[]⟩, [], []⟩) (number : Nat) :
    r.readLinesFrom number [] (steps.map Step.line ++ rest) = .ok ⟨⟨steps⟩, [], []⟩ := by
  induction steps generalizing number with
  | nil => exact hrest number
  | cons step more ih =>
    rw [FreeOfVariables, List.forall_mem_cons] at hfree
    rw [List.forall_mem_cons] at hfits hback
    rw [List.map_cons, List.cons_append, readLinesFrom_cons,
      readLinesFrom_line hfits.1 hback.1 hfree.1]
    change (r.readLinesFrom (number + 1) [] _ >>= _) = _
    rw [ih hfits.2 hback.2 hfree.2]
    rfl

theorem newline_notMem_line (h : step.FitsLine) : '\n' ∉ step.line.toList := by
  have hoperator : '\n' ∉ step.operator.toList := by
    intro hmem
    exact absurd (h.noBlank _ hmem) (by decide)
  rw [toList_line]
  rw [List.mem_append, List.mem_cons, not_or, not_or]
  exact ⟨hoperator, by decide, Json.oneLine_compact step.config⟩

/-- The pieces of the line text: the lines, and what its end adds, on which there is nothing. -/
theorem exists_splitAt_lineText (hfits : p.FitsLines) {ending : String}
    (hending : ending ∈ ["", "\n"]) :
    ∃ rest, Text.splitAt '\n' (p.lineText ++ ending) = p.steps.map Step.line ++ rest ∧
      ∀ line ∈ rest, line = "" := by
  have hlines : ∃ rest, Text.splitAt '\n' p.lineText = p.steps.map Step.line ++ rest ∧
      ∀ line ∈ rest, line = "" := by
    cases hsteps : p.steps with
    | nil =>
      refine ⟨[""], ?_, fun line hline => List.mem_singleton.mp hline⟩
      rw [lineText, hsteps]
      rfl
    | cons step more =>
      refine ⟨[], ?_, fun line hline => absurd hline List.not_mem_nil⟩
      rw [List.append_nil, lineText, hsteps]
      refine Text.splitAt_join (by simp) fun line hline => ?_
      obtain ⟨step', hstep', rfl⟩ := List.mem_map.mp hline
      exact newline_notMem_line (hfits.steps step' (hsteps ▸ hstep'))
  obtain ⟨rest, hrest, hblank⟩ := hlines
  rcases List.mem_cons.mp hending with rfl | hending
  · exact ⟨rest, by rw [String.append_empty, hrest], hblank⟩
  · obtain rfl := List.mem_singleton.mp hending
    have hnewline : "\n" = String.singleton '\n' := rfl
    refine ⟨rest ++ [""], ?_, ?_⟩
    · rw [hnewline, Text.splitAt_append_singleton, hrest, List.append_assoc]
    · exact List.forall_mem_append.mpr ⟨hblank, List.forall_mem_singleton.mpr rfl⟩

theorem not_dash_prefix_line (h : step.FitsLine) (hdash : step.operator ≠ "-") :
    ¬ "- ".toList <+: step.line.toList := by
  have hmark : "- ".toList = ['-', ' '] := rfl
  obtain ⟨c, rest, hoperator, -⟩ := exists_toList_operator h
  rw [hmark, toList_line, hoperator, List.cons_append, List.cons_prefix_cons]
  rintro ⟨rfl, hblank⟩
  cases rest with
  | nil => exact hdash (String.toList_inj.mp hoperator)
  | cons d rest =>
    obtain rfl := (List.cons_prefix_cons.mp hblank).1
    have hspace := h.noBlank ' ' (hoperator ▸ List.mem_cons_of_mem _ List.mem_cons_self)
    exact absurd hspace (by decide)

theorem formOf_lineText (hfits : p.FitsLines) {ending : String}
    (hending : ending ∈ ["", "\n"]) : formOf (p.lineText ++ ending) = .lines := by
  obtain ⟨rest, hrest, hblank⟩ := exists_splitAt_lineText hfits hending
  rw [formOf_eq_lines_iff, ← Text.map_toList_splitAt, hrest]
  cases hsteps : p.steps with
  | nil =>
    rw [List.map_nil, List.nil_append, opening_of_blank hblank]
    decide
  | cons step more =>
    have hfit := hfits.steps step (hsteps ▸ List.mem_cons_self)
    have hhead : step ∈ p.steps.head? := by rw [hsteps]; rfl
    have hopening : opening ((List.map Step.line (step :: more) ++ rest).map String.toList) =
        step.line.toList := by
      rw [List.map_cons, List.cons_append, List.map_cons, opening, dropWhile_line hfit, if_neg]
      rw [toList_line]
      simp
    have hdocument : ∀ mark ∈ ["\x7b", "[", "steps:", "selection:"],
        ¬ mark.toList <+: step.line.toList := by
      intro mark hmark
      have hspace : ∀ mark ∈ ["\x7b", "[", "steps:", "selection:"], ' ' ∉ mark.toList := by decide
      have hstarts := hfits.noDocument step hhead mark hmark
      rwa [Text.startsWith, List.isPrefixOf_iff_prefix,
        ← prefix_append_cons_iff (hspace mark hmark) _ step.config.compact.toList,
        ← toList_line] at hstarts
    rw [hopening]
    exact List.forall_mem_append.mpr ⟨hdocument,
      List.forall_mem_singleton.mpr (not_dash_prefix_line hfit (hfits.noDash step hhead))⟩

theorem readLinesFrom_blanks {lines : List String} (h : ∀ line ∈ lines, line = "")
    (number : Nat) : r.readLinesFrom number [] lines = .ok ⟨⟨[]⟩, [], []⟩ := by
  induction lines generalizing number with
  | nil => rfl
  | cons line rest ih =>
    rw [List.forall_mem_cons] at h
    rw [h.1, readLinesFrom_blank]
    exact ih h.2 (number + 1)

theorem read_lineText (hr : r.bindings = []) (h : p.FreeOfVariables) (hfits : p.FitsLines)
    (hback : ∀ step ∈ p.steps, step.config.ReadsBack) {ending : String}
    (hending : ending ∈ ["", "\n"]) :
    r.read (p.lineText ++ ending) = .ok ⟨p, [], []⟩ := by
  obtain ⟨rest, hrest, hblank⟩ := exists_splitAt_lineText hfits hending
  rw [read, formOf_lineText hfits hending, readAs, readLines_eq, hr, hrest]
  exact readLinesFrom_lines hfits.steps hback h (readLinesFrom_blanks hblank) 1

end lines

end Reader

/-- Whatever the reader, as long as it has no variables to begin with, all written forms of a
program are read to the program, without a warning. -/
theorem read_eq_of_surfaceForm {r : Reader} (hr : r.bindings = []) {p : Program}
    (hfree : p.FreeOfVariables) :
    (p.list.ReadsBack → r.read p.list.compact = .ok ⟨p, [], []⟩) ∧
    (∀ key ∈ ["steps", "selection"], (Json.obj [(key, p.list)]).ReadsBack →
      r.read (Json.obj [(key, p.list)]).compact = .ok ⟨p, [], []⟩) ∧
    (p.FitsLines → (∀ step ∈ p.steps, step.config.ReadsBack) → ∀ ending ∈ ["", "\n"],
      r.read (p.lineText ++ ending) = .ok ⟨p, [], []⟩) ∧
    (p.list.ReadsBack → ∀ strict, compileValue strict p.list = compile strict p) := by
  refine ⟨fun hback => ?_, fun key hkey hback => ?_, fun hfits hback ending hending => ?_,
    fun hback strict => ?_⟩
  · exact Reader.read_list hr hfree hback
  · exact Reader.read_obj_list hr hfree hkey hback
  · exact Reader.read_lineText hr hfree hfits hback hending
  · exact compileSource_of_read (Reader.read_list (r := Reader.ofMode strict) rfl hfree hback)

theorem read_eq_of_surfaceForm_nested :
    let inner : Json :=
      .obj [("operator", .str "cols"), ("config", .obj [("names", .arr [.str "id"])])]
    let p : Program := ⟨[⟨"cols_at_any_depth", .obj [("contains", .str "$text")]⟩,
      ⟨"except", .obj [("steps", .arr [inner])]⟩]⟩
    let r : Reader := ⟨true, true, []⟩
    r.read p.list.compact = .ok ⟨p, [], []⟩ ∧
      r.read (Json.obj [("selection", p.list)]).compact = .ok ⟨p, [], []⟩ ∧
      r.read (p.lineText ++ "\n") = .ok ⟨p, [], []⟩ ∧
      compileValue false p.list = compile false p := by
  intro inner p r
  have hfree : p.FreeOfVariables := by
    rw [FreeOfVariables]
    decide +kernel
  have hlist : p.list.ReadsBack := by
    rw [Json.ReadsBack]
    decide +kernel
  have hobject : (Json.obj [("selection", p.list)]).ReadsBack := by
    rw [Json.ReadsBack]
    decide +kernel
  have hfits : p.FitsLines := by
    have hblank : ∀ step ∈ p.steps, step.operator.toList.all (!Text.isBlank ·) = true := by decide
    refine ⟨fun step hstep => ?_, by simp [p], by decide⟩
    have hnoBlank : ∀ c ∈ step.operator.toList, Text.isBlank c = false := by
      simpa using hblank step hstep
    rcases List.mem_cons.mp hstep with rfl | hstep
    · exact ⟨by decide, hnoBlank, by decide, by decide, rfl⟩
    · obtain rfl := List.mem_singleton.mp hstep
      exact ⟨by decide, hnoBlank, by decide, by decide, rfl⟩
  have hconfigs : ∀ step ∈ p.steps, step.config.ReadsBack := by
    simp only [Json.ReadsBack]
    decide +kernel
  obtain ⟨hread, hkeys, hlines, hcompile⟩ := read_eq_of_surfaceForm (r := r) rfl hfree
  exact ⟨hread hlist, hkeys "selection" (by decide) hobject, hlines hfits hconfigs "\n" (by decide),
    hcompile hlist false⟩

end Program

end ColumnSelection
