import ColumnSelection.Proofs.Compiling
import ColumnSelection.Proofs.LineReading
import ColumnSelection.Proofs.ValueEquality

/-!
# Lenient and strict

A lenient reader leaves faulty lines out, and a lenient compilation leaves out the steps with
unknown operators. Writing a comment in place of each of these lines gives a text that the strict
mode takes, with the same result. In the other direction, what the strict mode takes the lenient
mode takes without a complaint.
-/
namespace ColumnSelection

/-- The operator of the step is known. -/
def Step.isKnown (step : Step) : Bool :=
  (Operator.lookup step.operator).isSome

/-- The notice is about an operator written by an old name. -/
def Notice.IsDeprecation (notice : Notice) : Prop :=
  ∃ written canonical, notice = .deprecated written canonical

theorem Logged.outcome_bind_congr {α β : Type} {x y : Logged α} {f g : α → Logged β}
    (hxy : x.outcome = y.outcome) (hfg : ∀ a, (f a).outcome = (g a).outcome) :
    (x >>= f).outcome = (y >>= g).outcome := by
  obtain ⟨outcome, notices⟩ := x
  obtain ⟨outcome', notices'⟩ := y
  cases hxy
  cases outcome with
  | error e => rfl
  | ok a => exact hfg a

namespace Program

/-- A reading that neither gives a warning nor has a step with an unknown operator. -/
def Reading.isClean (reading : Reading) : Bool :=
  reading.warnings.isEmpty && reading.program.steps.all Step.isKnown

namespace Reader

theorem lineReading_ofMode (number : Nat) (bindings : Bindings) (line : String) :
    LineReading bindings ((ofMode false).readLinesFrom number bindings [line])
      ((ofMode true).readLinesFrom number bindings [line]) :=
  lineReading {} number bindings line

section cleaning

/-- The lenient reading of one line. -/
def readLine (number : Nat) (bindings : Bindings) (line : String) : Reading :=
  match (ofMode false).readLinesFrom number bindings [line] with
  | .ok reading => reading
  | .error _ => ⟨⟨[]⟩, [], bindings⟩

/-- The lines with a comment in place of each line that the lenient reader warns about or whose
operator is unknown. -/
def cleanLines (number : Nat) (bindings : Bindings) : List String → List String
  | [] => []
  | line :: rest =>
    let reading := readLine number bindings line
    (if reading.isClean then line else "#") :: cleanLines (number + 1) reading.bindings rest

/-- The text with a comment in place of each such line. -/
def cleaned (source : String) : String :=
  Text.join "\n" (cleanLines 1 [] (Text.splitAt '\n' source))

/-- The reading with the same variables, of the known operators alone and without warnings. -/
structure IsCleanFormOf (kept seen : Reading) : Prop where
  steps : kept.program.steps = seen.program.steps.filter Step.isKnown
  warnings : kept.warnings = []
  bindings : kept.bindings = seen.bindings

theorem IsCleanFormOf.append {kept kept' seen seen' : Reading} (h : IsCleanFormOf kept seen)
    (h' : IsCleanFormOf kept' seen') : IsCleanFormOf (kept.append kept') (seen.append seen') where
  steps := by
    simp only [Reading.append, h.steps, h'.steps, List.filter_append]
  warnings := by
    simp only [Reading.append, h.warnings, h'.warnings, List.append_nil]
  bindings := h'.bindings

variable {number : Nat} {bindings : Bindings} {line : String}

theorem readLinesFrom_comment (r : Reader) (number : Nat) (bindings : Bindings) :
    r.readLinesFrom number bindings ["#"] = .ok ⟨⟨[]⟩, [], bindings⟩ := by
  have hcomment : isIgnored (Text.trim "#") = true := by decide
  simp only [readLinesFrom, hcomment, if_true]

theorem readLine_eq (number : Nat) (bindings : Bindings) (line : String) :
    (ofMode false).readLinesFrom number bindings [line] =
      .ok (readLine number bindings line) := by
  have hline := lineReading_ofMode number bindings line
  rw [readLine]
  generalize (ofMode false).readLinesFrom number bindings [line] = seen at hline ⊢
  generalize (ofMode true).readLinesFrom number bindings [line] = kept at hline
  cases hline <;> rfl

/-- In place of one line the strict mode takes the clean line. -/
theorem exists_isCleanFormOf_line (number : Nat) (bindings : Bindings) (line : String) :
    ∃ kept, (ofMode true).readLinesFrom number bindings
        [if (readLine number bindings line).isClean then line else "#"] = .ok kept ∧
      IsCleanFormOf kept (readLine number bindings line) := by
  have hline := lineReading_ofMode number bindings line
  rw [readLine_eq] at hline
  generalize readLine number bindings line = seen at hline ⊢
  generalize hstrict : (ofMode true).readLinesFrom number bindings [line] = kept at hline
  have hcomment := readLinesFrom_comment (ofMode true) number bindings
  cases hline with
  | blank => exact ⟨_, hstrict, rfl, rfl, rfl⟩
  | binding name value => exact ⟨_, hstrict, rfl, rfl, rfl⟩
  | step step =>
    cases hknown : step.isKnown with
    | true =>
      have hclean : Reading.isClean ⟨⟨[step]⟩, [], bindings⟩ = true := by
        simp [Reading.isClean, hknown]
      rw [if_pos hclean]
      exact ⟨_, hstrict, by simp [hknown], rfl, rfl⟩
    | false =>
      have hclean : Reading.isClean ⟨⟨[step]⟩, [], bindings⟩ = false := by
        simp [Reading.isClean, hknown]
      rw [hclean]
      exact ⟨_, hcomment, by simp [hknown], rfl, rfl⟩
  | faulty warning e =>
    -- The line leaves the variables as they were, and so does the comment.
    exact ⟨_, hcomment, rfl, rfl, rfl⟩

/-- The strict mode reads the clean lines to what the lenient mode makes of the lines, without the
unknown operators. -/
theorem exists_isCleanFormOf (number : Nat) (bindings : Bindings) (lines : List String) :
    ∃ seen kept, (ofMode false).readLinesFrom number bindings lines = .ok seen ∧
      (ofMode true).readLinesFrom number bindings (cleanLines number bindings lines) = .ok kept ∧
      IsCleanFormOf kept seen := by
  induction lines generalizing number bindings with
  | nil => exact ⟨_, _, rfl, rfl, rfl, rfl, rfl⟩
  | cons line rest ih =>
    obtain ⟨first, hfirst, hline⟩ := exists_isCleanFormOf_line number bindings line
    obtain ⟨seen, kept, hseen, hkept, hrest⟩ :=
      ih (number + 1) (readLine number bindings line).bindings
    refine ⟨(readLine number bindings line).append seen, first.append kept, ?_, ?_,
      hline.append hrest⟩
    · rw [readLinesFrom_cons, readLine_eq]
      change ((ofMode false).readLinesFrom (number + 1) _ rest >>= _) = _
      rw [hseen]
      rfl
    · rw [cleanLines, readLinesFrom_cons, hfirst]
      change ((ofMode true).readLinesFrom (number + 1) first.bindings _ >>= _) = _
      rw [hline.bindings, hkept]
      rfl

theorem take_cleanLines (k number : Nat) (bindings : Bindings) (lines : List String) :
    (cleanLines number bindings lines).take k = cleanLines number bindings (lines.take k) := by
  induction lines generalizing k number bindings with
  | nil => simp [cleanLines]
  | cons line rest ih =>
    cases k with
    | zero => rfl
    | succ k => rw [cleanLines, List.take_succ_cons, ih, List.take_succ_cons, cleanLines]

theorem cleanLines_ne_nil {lines : List String} (h : lines ≠ []) :
    cleanLines number bindings lines ≠ [] := by
  cases lines with
  | nil => exact absurd rfl h
  | cons line rest => simp [cleanLines]

theorem mem_cleanLines {lines : List String} {text : String}
    (h : text ∈ cleanLines number bindings lines) : text ∈ lines ∨ text = "#" := by
  induction lines generalizing number bindings with
  | nil => cases h
  | cons line rest ih =>
    rw [cleanLines] at h
    rcases List.mem_cons.mp h with h | h
    · split_ifs at h
      · exact .inl (h ▸ List.mem_cons_self)
      · exact .inr h
    · exact (ih h).imp_left (List.mem_cons_of_mem line)

/-- The pieces of the clean text are the clean lines. -/
theorem splitAt_cleaned (source : String) :
    Text.splitAt '\n' (cleaned source) = cleanLines 1 [] (Text.splitAt '\n' source) := by
  refine Text.splitAt_join (cleanLines_ne_nil (Text.splitAt_ne_nil '\n' source)) ?_
  intro text htext
  rcases mem_cleanLines htext with htext | rfl
  · exact Text.not_mem_of_mem_splitAt htext
  · decide

theorem readLine_of_blank (h : line.toList.dropWhile Text.isBlank = []) :
    readLine number bindings line = ⟨⟨[]⟩, [], bindings⟩ := by
  have htrim : Text.trim line = Text.trim "" := by
    rw [← String.toList_inj, Text.toList_trim, Text.toList_trim, Text.trimBy, Text.trimStartBy, h]
    rfl
  have hread := readLine_eq number bindings line
  rw [readLinesFrom_cons_congr htrim fun _ _ => rfl, readLinesFrom_blank, readLinesFrom] at hread
  exact (Except.ok.inj hread).symm

/-- The first line with something on it stays where it is, as it is or as a comment. -/
theorem opening_cleanLines (number : Nat) (bindings : Bindings) (lines : List String) :
    opening ((cleanLines number bindings lines).map String.toList) =
        opening (lines.map String.toList) ∨
      opening ((cleanLines number bindings lines).map String.toList) = ['#'] := by
  induction lines generalizing number bindings with
  | nil => exact .inl rfl
  | cons line rest ih =>
    rw [cleanLines, List.map_cons, List.map_cons]
    by_cases hblank : line.toList.dropWhile Text.isBlank = []
    · rw [readLine_of_blank hblank]
      have hclean : Reading.isClean ⟨⟨[]⟩, [], bindings⟩ = true := rfl
      rw [if_pos hclean, opening, opening, if_pos (by simp [hblank]), if_pos (by simp [hblank])]
      exact ih (number + 1) bindings
    · split_ifs
      · left
        rw [opening, opening, if_neg (by simpa using hblank), if_neg (by simpa using hblank)]
      · right
        rw [opening]
        rfl

theorem formOf_cleaned {source : String} (h : formOf source = .lines) :
    formOf (cleaned source) = .lines := by
  rw [formOf_eq_lines_iff, ← Text.map_toList_splitAt] at h ⊢
  rw [splitAt_cleaned]
  rcases opening_cleanLines 1 [] (Text.splitAt '\n' source) with hopening | hopening
  · rwa [hopening]
  · rw [hopening]
    decide

end cleaning

section agreement

/-- What the strict mode reads the lenient mode reads in the same way and without a warning. -/
def AgreesWhenStrict (seen kept : Except Failure Reading) : Prop :=
  ∀ reading, kept = .ok reading → seen = .ok reading ∧ reading.warnings = []

theorem agreesWhenStrict_readLinesFrom (number : Nat) (bindings : Bindings)
    (lines : List String) :
    AgreesWhenStrict ((ofMode false).readLinesFrom number bindings lines)
      ((ofMode true).readLinesFrom number bindings lines) := by
  induction lines generalizing number bindings with
  | nil =>
    rintro _ ⟨⟩
    exact ⟨rfl, rfl⟩
  | cons line rest ih =>
    intro reading h
    rw [readLinesFrom_cons] at h ⊢
    obtain ⟨first, hfirst, h⟩ := bind_eq_ok.mp h
    obtain ⟨second, hsecond, h⟩ := bind_eq_ok.mp h
    cases h
    have hline := lineReading_ofMode number bindings line
    obtain ⟨hseen, hwarnings⟩ := ih (number + 1) first.bindings second hsecond
    generalize (ofMode false).readLinesFrom number bindings [line] = seen at hline ⊢
    rw [hfirst] at hline
    have hsame : seen = .ok first ∧ first.warnings = [] := by
      cases hline <;> exact ⟨rfl, rfl⟩
    rw [hsame.1]
    refine ⟨bind_eq_ok.mpr ⟨first, rfl, bind_eq_ok.mpr ⟨second, hseen, rfl⟩⟩, ?_⟩
    simp only [Reading.append, hsame.2, hwarnings, List.append_nil]

theorem readSteps_of_strict {index : Nat} {items : List Json} {steps : List Step}
    {warnings : List String}
    (h : (ofMode true).readSteps index items = .ok (steps, warnings)) :
    (ofMode false).readSteps index items = .ok (steps, warnings) ∧ warnings = [] := by
  induction items generalizing index steps warnings with
  | nil =>
    cases h
    exact ⟨rfl, rfl⟩
  | cons item rest ih =>
    have hmode : (ofMode false).readStep item = (ofMode true).readStep item := rfl
    rw [readSteps] at h ⊢
    rw [hmode]
    cases hitem : (ofMode true).readStep item with
    | error e =>
      rw [hitem] at h
      cases h
    | ok step =>
      rw [hitem] at h
      obtain ⟨⟨others, more⟩, hrest, h⟩ := bind_eq_ok.mp h
      cases h
      obtain ⟨hseen, hwarnings⟩ := ih hrest
      exact ⟨bind_eq_ok.mpr ⟨(others, warnings), hseen, rfl⟩, hwarnings⟩

theorem agreesWhenStrict_readStepList (items : List Json) :
    AgreesWhenStrict ((ofMode false).readStepList items) ((ofMode true).readStepList items) := by
  intro reading h
  obtain ⟨⟨steps, warnings⟩, hsteps, h⟩ := bind_eq_ok.mp h
  cases h
  obtain ⟨hseen, hwarnings⟩ := readSteps_of_strict hsteps
  exact ⟨bind_eq_ok.mpr ⟨(steps, warnings), hseen, rfl⟩, hwarnings⟩

theorem agreesWhenStrict_readDocument (document : Json) :
    AgreesWhenStrict ((ofMode false).readDocument document)
      ((ofMode true).readDocument document) := by
  cases document with
  | arr items => exact agreesWhenStrict_readStepList items
  | obj fields =>
    rw [readDocument, readDocument]
    cases (Entries.get? "steps" fields).or (Entries.get? "selection" fields) with
    | some steps =>
      cases steps with
      | arr items => exact agreesWhenStrict_readStepList items
      | _ => rintro _ ⟨⟩
    | none =>
      dsimp only
      split_ifs
      · intro reading h
        obtain ⟨step, hstep, h⟩ := bind_eq_ok.mp h
        cases h
        exact ⟨bind_eq_ok.mpr ⟨step, hstep, rfl⟩, rfl⟩
      · rintro _ ⟨⟩
  | _ => rintro _ ⟨⟩

theorem agreesWhenStrict_read (source : String) :
    AgreesWhenStrict ((ofMode false).read source) ((ofMode true).read source) := by
  rw [read, read]
  cases formOf source with
  | json =>
    rw [readAs, readAs, readJson, readJson]
    cases Json.parse? source with
    | some document => exact agreesWhenStrict_readDocument document
    | none => rintro _ ⟨⟩
  | yaml =>
    rw [readAs, readAs, readYaml, readYaml]
    cases Yaml.parse? source with
    | some document => exact agreesWhenStrict_readDocument document
    | none => rintro _ ⟨⟩
  | lines => exact agreesWhenStrict_readLinesFrom 1 [] (Text.lines source)

end agreement

end Reader

section compiling

/-- Every operator of the program is known, and so are those of the programs that it holds. -/
inductive Known : Program → Prop where
  | intro {p : Program} (hsteps : ∀ step ∈ p.steps, step.isKnown = true)
      (hheld : ∀ step ∈ p.steps, ∀ q, Holds step.config q → Known q) : Known p

theorem operatorOf_of_isKnown {step : Step} (h : step.isKnown = true) :
    operatorOf false step = operatorOf true step := by
  obtain ⟨name, hname⟩ := Option.isSome_iff_exists.mp h
  obtain ⟨notices, -, hoperator⟩ := exists_operatorOf_eq hname
  rw [hoperator, hoperator]

/-- On known operators the mode makes no difference. -/
theorem Known.compile_eq {p : Program} (h : Known p) : compile false p = compile true p := by
  refine compile_related Logged.isCongruence_eq false true (P := Known) ?_ ?_ h
  · rintro p ⟨hsteps, -⟩ step hstep
    exact operatorOf_of_isKnown (hsteps step hstep)
  · rintro p ⟨-, hheld⟩
    exact hheld

theorem compileSteps_filter_isKnown (nested : Nested) (current : Option Selection)
    (steps : List Step) :
    (compileSteps nested false current steps).outcome =
      (compileSteps nested false current (steps.filter Step.isKnown)).outcome := by
  induction steps generalizing current with
  | nil => rfl
  | cons step rest ih =>
    cases hknown : step.isKnown with
    | true =>
      obtain ⟨name, hname⟩ := Option.isSome_iff_exists.mp hknown
      obtain ⟨notices, -, hoperator⟩ := exists_operatorOf_eq hname
      rw [List.filter_cons_of_pos hknown, compileSteps, compileSteps, hoperator]
      refine Logged.outcome_bind_congr rfl fun o => ?_
      cases o with
      | none => exact ih current
      | some o => exact Logged.outcome_bind_congr rfl fun set => ih (some set)
    | false =>
      have hlookup : Operator.lookup step.operator = none := by
        simpa [Step.isKnown] using hknown
      rw [List.filter_cons_of_neg (by simp [hknown]), compileSteps, operatorOf_lenient hlookup]
      exact ih current

/-- A lenient compilation leaves out what is unknown. -/
theorem compile_filter_isKnown (p : Program) :
    (compile false p).outcome = (compile false ⟨p.steps.filter Step.isKnown⟩).outcome := by
  rw [compile_eq, compile_eq]
  exact Logged.outcome_bind_congr (compileSteps_filter_isKnown _ none p.steps) fun _ => rfl

/-- A program that compiles in the strict mode compiles to the same in the lenient mode. -/
theorem compile_of_strict {p : Program} {set : Selection} (h : (compile true p).outcome = .ok set) :
    compile false p = compile true p := by
  refine compile_related Logged.isCongruence_of_ok true false (P := fun _ => True) ?_
    (fun _ _ _ _ _ _ => trivial) trivial set h
  intro p _ step _ o ho
  cases hknown : Operator.lookup step.operator with
  | none =>
    rw [operatorOf_strict hknown] at ho
    cases ho
  | some name =>
    obtain ⟨notices, -, hoperator⟩ := exists_operatorOf_eq hknown
    rw [hoperator, hoperator]

/-- The only notices of a strict compilation are about operators written by old names. -/
theorem isDeprecation_of_mem_notices {p : Program} {notice : Notice}
    (h : notice ∈ (compile true p).notices) : notice.IsDeprecation := by
  refine compile_related (Logged.isCongruence_notices Notice.IsDeprecation) true true
    (P := fun _ => True) ?_ (fun _ _ _ _ _ _ => trivial) trivial notice h
  intro p _ step _ notice hmem
  cases hknown : Operator.lookup step.operator with
  | none =>
    rw [operatorOf_strict hknown] at hmem
    cases hmem
  | some name =>
    obtain ⟨notices, hnotices, hoperator⟩ := exists_operatorOf_eq hknown
    rw [hoperator] at hmem
    exact ⟨_, _, hnotices notice hmem⟩

open Reader

/-- No line of the clean text holds a program with an unknown operator in its configuration. -/
def HoldsKnown (source : String) : Prop :=
  ∀ reading, (ofMode true).read (cleaned source) = .ok reading →
    ∀ step ∈ reading.program.steps, ∀ q, Holds step.config q → Known q

theorem HoldsKnown.of_read {source : String} {reading : Reading}
    (hread : (ofMode true).read (cleaned source) = .ok reading)
    (h : ∀ step ∈ reading.program.steps, ∀ q, Holds step.config q → Known q) :
    HoldsKnown source := by
  intro other hother
  rw [hread] at hother
  cases hother
  exact h

theorem outcome_compileSource_cleaned {source : String} (hform : formOf source = .lines)
    (hheld : HoldsKnown source) :
    (compileSource false source).outcome = (compileSource true (cleaned source)).outcome := by
  obtain ⟨seen, kept, hseen, hkept, hclean⟩ := exists_isCleanFormOf 1 [] (Text.splitAt '\n' source)
  have hlenient : (ofMode false).read source = .ok seen := by
    rw [Reader.read, hform, readAs, readLines_eq]
    exact hseen
  have hstrict : (ofMode true).read (cleaned source) = .ok kept := by
    rw [Reader.read, formOf_cleaned hform, readAs, readLines_eq, splitAt_cleaned]
    exact hkept
  have hprogram : kept.program = ⟨seen.program.steps.filter Step.isKnown⟩ := by
    rw [← hclean.steps]
  -- What is left on the lines is known, and by assumption so is what these hold.
  have hknown : Known kept.program := by
    refine .intro ?_ (hheld kept hstrict)
    rw [hclean.steps]
    intro step hstep
    exact (List.mem_filter.mp hstep).2
  rw [compileSource_of_read hlenient, compileSource_of_read hstrict]
  calc (compile false seen.program).outcome
      = (compile false kept.program).outcome := by rw [hprogram]; exact compile_filter_isKnown _
    _ = (compile true kept.program).outcome := by rw [hknown.compile_eq]

theorem exists_same_bindings (source : String) (k : Nat) :
    ∃ seen kept,
      (ofMode false).readLinesFrom 1 [] ((Text.lines source).take k) = .ok seen ∧
        (ofMode true).readLinesFrom 1 [] ((Text.lines (cleaned source)).take k) = .ok kept ∧
        kept.bindings = seen.bindings := by
  obtain ⟨seen, kept, hseen, hkept, hclean⟩ :=
    exists_isCleanFormOf 1 [] ((Text.splitAt '\n' source).take k)
  refine ⟨seen, kept, ?_, ?_, hclean.bindings⟩
  · rw [readLinesFrom_take_lines]
    exact hseen
  · rw [readLinesFrom_take_lines, splitAt_cleaned, take_cleanLines]
    exact hkept

theorem compileSource_of_strict {source : String} {set : Selection}
    (h : (compileSource true source).outcome = .ok set) :
    (compileSource false source).outcome = .ok set ∧
      ∀ notice ∈ (compileSource false source).notices, notice.IsDeprecation := by
  cases hstrict : (ofMode true).read source with
  | error e =>
    rw [compileSource, hstrict] at h
    cases h
  | ok reading =>
    obtain ⟨hlenient, hwarnings⟩ := agreesWhenStrict_read source reading hstrict
    rw [compileSource_of_read hstrict] at h
    rw [compileSource_of_read hlenient, hwarnings, compile_of_strict h]
    exact ⟨h, fun notice hmem => isDeprecation_of_mem_notices hmem⟩

/-- The lenient mode takes a text in line syntax as the strict mode takes the clean text, with the
same variables at every line; and what the strict mode takes in any form the lenient mode takes
without a word about a fault. -/
theorem compileSource_lenient :
    (∀ source, formOf source = .lines → HoldsKnown source →
      (compileSource false source).outcome = (compileSource true (cleaned source)).outcome ∧
      ∀ k, ∃ seen kept,
        (ofMode false).readLinesFrom 1 [] ((Text.lines source).take k) = .ok seen ∧
          (ofMode true).readLinesFrom 1 [] ((Text.lines (cleaned source)).take k) = .ok kept ∧
          kept.bindings = seen.bindings) ∧
    (∀ source set, (compileSource true source).outcome = .ok set →
      (compileSource false source).outcome = .ok set ∧
        ∀ notice ∈ (compileSource false source).notices, notice.IsDeprecation) := by
  refine ⟨fun source hform hheld => ⟨?_, ?_⟩, fun source set h => ?_⟩
  · exact outcome_compileSource_cleaned hform hheld
  · exact exists_same_bindings source
  · exact compileSource_of_strict h

/-- A variable, an unknown operator, a faulty configuration, and a step that holds a program. -/
theorem compileSource_lenient_faulty_lines :
    let source := "$n=1\nnowhere id\ncols \x7boops\ntake $n\n" ++
      "except \x7b\"steps\":[\x7b\"operator\":\"all\"\x7d]\x7d"
    let clean := "$n=1\n#\n#\ntake $n\n" ++
      "except \x7b\"steps\":[\x7b\"operator\":\"all\"\x7d]\x7d"
    cleaned source = clean ∧
      (compileSource false source).outcome = (compileSource true clean).outcome ∧
      (compileSource true "all").outcome = .ok .all ∧
      (compileSource false "all").outcome = .ok .all := by
  intro source clean
  have hclean : cleaned source = clean := by decide +kernel
  have hread : (ofMode true).read (cleaned source) =
      .ok ⟨⟨[⟨"take", .obj [("args", .arr [.int 1])]⟩,
        ⟨"except", .obj [("steps", .arr [.obj [("operator", .str "all")]])]⟩]⟩, [],
        [("n", .int 1)]⟩ := by
    rw [hclean]
    decide +kernel
  have hheld : HoldsKnown source := by
    refine HoldsKnown.of_read hread fun step hstep q hq => ?_
    obtain ⟨items, hitems, hsteps⟩ := hq
    rcases List.mem_cons.mp hstep with rfl | hstep
    · cases hitems
    · obtain rfl := List.mem_singleton.mp hstep
      cases hitems
      obtain ⟨steps⟩ := q
      cases hsteps
      refine .intro (List.forall_mem_singleton.mpr (by decide)) ?_
      rintro step hstep q ⟨items, hitems, -⟩
      obtain rfl := List.mem_singleton.mp hstep
      cases hitems
  have hall : (compileSource true "all").outcome = .ok .all := by
    have hread : (ofMode true).read "all" = .ok ⟨⟨[⟨"all", .obj []⟩]⟩, [], []⟩ := by
      decide +kernel
    rw [compileSource_of_read hread, compile_eq]
    rfl
  refine ⟨hclean, ?_, hall, (compileSource_lenient.2 "all" .all hall).1⟩
  rw [← hclean]
  exact (compileSource_lenient.1 source (by decide +kernel) hheld).1

end compiling

end Program

end ColumnSelection
