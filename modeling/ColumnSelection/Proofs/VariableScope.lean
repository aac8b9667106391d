import ColumnSelection.Proofs.LineReading
import ColumnSelection.Proofs.Substitution
import ColumnSelection.Proofs.ValueEquality
import Mathlib.Data.List.Induction

/-!
# The scope of variables

A variable holds from the line behind the one that gives it a value up to the next that does, so a
text on a line stands for what the last such line above it says, or for the value the reader begins
with. The strict reader puts a step for every other line with something on it, and fails at the
first line that is malformed or needs a variable without a value there.
-/
namespace ColumnSelection.Program.Reader

/-- Whether a line is there to give a variable a value. -/
def isVariableLine (line : String) : Bool :=
  Text.startsWith (Text.trim line) "$"

/-- Whether a line is there to be a step. -/
def isStepLine (line : String) : Bool :=
  !isIgnored (Text.trim line) && !isVariableLine line

/-- The variable that a line gives a value, with the value. -/
def declaration? (line : String) : Option (String × Json) :=
  if isVariableLine line then (readBinding (Text.trim line)).toOption else none

/-- The name stands between the dollar sign and the first equals sign of a line, and behind that
the value. -/
def Declares (line name : String) (value : Json) : Prop :=
  ∃ front back, (Text.trim line).toList = '$' :: front ++ '=' :: back ∧ '=' ∉ front ∧
    Text.trimBy Text.isBlank front = name.toList ∧ name ≠ "" ∧
    value = listLiteral (Text.trimBy Text.isBlank back)

/-- The variables bound below some lines. -/
def bindingsBelow (bindings : Bindings) (above : List String) : Bindings :=
  (above.filterMap declaration?).foldl (fun bound entry => Entries.put entry.1 entry.2 bound)
    bindings

/-- The value of a variable below some lines: the last of them to give it one decides, and without
such a line the value it has beforehand. -/
def valueBelow (bindings : Bindings) (above : List String) (name : String) : Option Json :=
  (above.reverse.findSome? fun line => Entries.get? name (declaration? line).toList).or
    (Entries.get? name bindings)

/-- The operator on a line. -/
def lineOperator (line : String) : String :=
  String.ofList ((Text.trim line).toList.takeWhile (!Text.isBlank ·))

/-- What stands behind the operator on a line. -/
def settingsText (line : String) : String :=
  Text.trim (String.ofList (((Text.trim line).toList.dropWhile (!Text.isBlank ·)).drop 1))

/-- The step of a line under given values of variables: its configuration is the one on the line
with each text replaced by what it stands for. -/
structure IsStepOf (values : String → Option Json) (line : String) (step : Step) : Prop where
  operator_eq : step.operator = lineOperator line
  config_eq : ∃ config, lineConfig (settingsText line) = .ok config ∧
    ∃ f : String → Json, (∀ s ∈ config.texts, StandsFor values s (f s)) ∧
      step.config = config.mapTexts f

/-- The reading of some lines, each under the values of variables there. -/
structure IsReadingOf (bindings : Bindings) (lines : List String) (reading : Reading) : Prop where
  bindings_eq : reading.bindings = bindingsBelow bindings lines
  length_steps : reading.program.steps.length = lines.countP isStepLine
  step_of : ∀ k line, lines[k]? = some line → isStepLine line →
    ∃ step, reading.program.steps[(lines.take k).countP isStepLine]? = some step ∧
      IsStepOf (valueBelow bindings (lines.take k)) line step

/-- What the strict reader has against a line. -/
inductive LineFault (values : String → Option Json) (number : Nat) (line : String) :
    Failure → Prop
  | noEquals : isVariableLine line → '=' ∉ (Text.trim line).toList →
      LineFault values number line
        (.validation (.variableLine number (Failure.validation .variableFormat).message))
  | noName {name value : List Char} : isVariableLine line →
      (Text.trim line).toList = '$' :: name ++ '=' :: value → (∀ c ∈ name, Text.isBlank c) →
      LineFault values number line
        (.validation (.variableLine number (Failure.validation .variableWithoutName).message))
  | notJson : isStepLine line → Text.startsWith (settingsText line) "\x7b" →
      Json.parse? (settingsText line) = none →
      LineFault values number line
        (.validation (.stepLine number (Failure.validation .stepSettings).message))
  | unbound {config : Json} {front back : List String} {s name : String} : isStepLine line →
      lineConfig (settingsText line) = .ok config → config.texts = front ++ s :: back →
      (∀ t ∈ front, ∃ j, StandsFor values t j) → s = "$\x7b" ++ name ++ "\x7d" →
      values name = none →
      LineFault values number line
        (.validation (.stepLine number (Failure.validation (.undefinedVariable name)).message))

/-- What the strict reader makes of a line with the variables bound so far. -/
inductive StrictReading (r : Reader) (number : Nat) (bindings : Bindings) (line : String) :
    Except Failure Reading → Prop
  | ignored : ¬ isVariableLine line → ¬ isStepLine line →
      StrictReading r number bindings line (.ok ⟨⟨[]⟩, [], bindings⟩)
  | binding {entry : String × Json} : isVariableLine line →
      readBinding (Text.trim line) = .ok entry →
      StrictReading r number bindings line (.ok ⟨⟨[]⟩, [], Entries.put entry.1 entry.2 bindings⟩)
  | faultyBinding {e : Failure} : isVariableLine line → readBinding (Text.trim line) = .error e →
      StrictReading r number bindings line (.error (.validation (.variableLine number e.message)))
  | step {step : Step} : isStepLine line → r.readStepLine bindings (Text.trim line) = .ok step →
      StrictReading r number bindings line (.ok ⟨⟨[step]⟩, [], bindings⟩)
  | faultyStep {e : Failure} : isStepLine line →
      r.readStepLine bindings (Text.trim line) = .error e →
      StrictReading r number bindings line (.error (.validation (.stepLine number e.message)))

/-- What the strict reader has against the first faulty one of some lines, counted from `number`. -/
def IsFirstFault (bindings : Bindings) (number : Nat) (lines : List String) (e : Failure) : Prop :=
  ∃ k line, lines[k]? = some line ∧
    LineFault (valueBelow bindings (lines.take k)) (number + k) line e ∧
    ∀ i earlier, i < k → lines[i]? = some earlier →
      ∀ e', ¬ LineFault (valueBelow bindings (lines.take i)) (number + i) earlier e'

section bindings

variable {bindings : Bindings}

theorem bindingsBelow_append (above below : List String) :
    bindingsBelow bindings (above ++ below) =
      bindingsBelow (bindingsBelow bindings above) below := by
  simp [bindingsBelow]

theorem bindingsBelow_cons (line : String) (rest : List String) :
    bindingsBelow bindings (line :: rest) =
      bindingsBelow (bindingsBelow bindings [line]) rest :=
  bindingsBelow_append [line] rest

theorem get?_bindingsBelow_singleton (line name : String) :
    Entries.get? name (bindingsBelow bindings [line]) =
      (Entries.get? name (declaration? line).toList).or (Entries.get? name bindings) := by
  cases hline : declaration? line with
  | none =>
    have hbelow : bindingsBelow bindings [line] = bindings := by
      simp [bindingsBelow, hline]
    rw [hbelow]
    rfl
  | some entry =>
    have hbelow : bindingsBelow bindings [line] = Entries.put entry.1 entry.2 bindings := by
      simp [bindingsBelow, hline]
    rw [hbelow, Option.toList_some, Entries.get?]
    by_cases hname : entry.1 = name
    · subst hname
      simp
    · rw [if_neg hname, Entries.get?_put_of_ne (Ne.symm hname)]
      rfl

/-- The variables bound below some lines have the values of the last lines to give them one. -/
theorem get?_bindingsBelow (above : List String) (name : String) :
    Entries.get? name (bindingsBelow bindings above) = valueBelow bindings above name := by
  induction above using List.reverseRecOn with
  | nil => rfl
  | append_singleton above line ih =>
    rw [bindingsBelow_append, get?_bindingsBelow_singleton, ih, valueBelow, valueBelow,
      List.reverse_concat, List.findSome?_cons]
    cases Entries.get? name (declaration? line).toList <;> rfl

theorem valueBelow_cons (line : String) (above : List String) :
    valueBelow bindings (line :: above) = valueBelow (bindingsBelow bindings [line]) above := by
  funext name
  rw [← get?_bindingsBelow, ← get?_bindingsBelow, bindingsBelow_cons]

end bindings

section lines

variable {r : Reader} {number : Nat} {bindings : Bindings} {line : String} {e : Failure}

theorem isVariableLine_iff :
    isVariableLine line ↔ ∃ rest, (Text.trim line).toList = '$' :: rest := by
  rw [isVariableLine, Text.startsWith, List.isPrefixOf_iff_prefix]
  exact exists_congr fun rest => eq_comm

theorem isIgnored_of_isVariableLine (h : isVariableLine line) :
    isIgnored (Text.trim line) = false := by
  obtain ⟨rest, hrest⟩ := isVariableLine_iff.mp h
  have hempty : Text.trim line ≠ "" := by
    intro hnil
    rw [hnil] at hrest
    cases hrest
  simp [isIgnored, Text.startsWith, hrest, hempty, List.isPrefixOf]

theorem readBinding_eq_ok_iff (h : isVariableLine line) {name : String} {value : Json} :
    readBinding (Text.trim line) = .ok (name, value) ↔ Declares line name value := by
  rw [Declares]
  obtain ⟨rest, hrest⟩ := isVariableLine_iff.mp h
  have hcut : ∀ front back, (Text.trim line).toList = '$' :: front ++ '=' :: back ∧ '=' ∉ front ↔
      Text.splitOnce? '=' rest = some (front, back) := by
    intro front back
    rw [hrest, Text.splitOnce?_eq_some_iff, List.cons_append, List.cons_inj_right]
  simp only [← and_assoc, hcut]
  rw [readBinding, hrest, List.drop_one, List.tail_cons]
  cases hsplit : Text.splitOnce? '=' rest with
  | none => simp
  | some parts =>
    obtain ⟨front, back⟩ := parts
    dsimp only
    split_ifs with hname
    · have hfront : Text.trimBy Text.isBlank front = [] := List.isEmpty_iff.mp hname
      refine iff_of_false nofun ?_
      rintro ⟨front', back', ⟨⟨⟨⟩, hname'⟩, hne⟩, -⟩
      exact hne (String.toList_eq_nil_iff.mp (hname'.symm.trans hfront))
    · constructor
      · rintro ⟨⟩
        refine ⟨front, back, ⟨⟨rfl, String.toList_ofList.symm⟩, fun hnil => hname ?_⟩, rfl⟩
        rw [List.isEmpty_iff, ← String.toList_ofList (l := Text.trimBy Text.isBlank front), hnil]
        rfl
      · rintro ⟨front', back', ⟨⟨⟨⟩, hname'⟩, hne⟩, rfl⟩
        rw [hname', String.ofList_toList]

theorem declaration?_eq_some_iff {name : String} {value : Json} :
    declaration? line = some (name, value) ↔ Declares line name value := by
  rw [declaration?]
  split_ifs with h
  · rw [← readBinding_eq_ok_iff h]
    cases readBinding (Text.trim line) <;> simp [Except.toOption]
  · refine iff_of_false nofun ?_
    rintro ⟨front, back, hline, -⟩
    exact h (isVariableLine_iff.mpr ⟨_, hline⟩)

/-- A variable line is faulty if it has no equals sign or nothing but blanks in front of it. -/
theorem readBinding_eq_error_iff (h : isVariableLine line) :
    readBinding (Text.trim line) = .error e ↔
      ('=' ∉ (Text.trim line).toList ∧ e = .validation .variableFormat) ∨
        ∃ name value, (Text.trim line).toList = '$' :: name ++ '=' :: value ∧
          (∀ c ∈ name, Text.isBlank c) ∧ e = .validation .variableWithoutName := by
  obtain ⟨rest, hrest⟩ := isVariableLine_iff.mp h
  rw [readBinding, hrest, List.drop_one, List.tail_cons]
  cases hsplit : Text.splitOnce? '=' rest with
  | none =>
    have hequals : '=' ∉ rest := Text.splitOnce?_eq_none_iff.mp hsplit
    constructor
    · rintro ⟨⟩
      exact .inl ⟨by simp [hequals], rfl⟩
    · rintro (⟨-, rfl⟩ | ⟨name, value, hcut, -⟩)
      · rfl
      · rw [List.cons_append, List.cons_inj_right] at hcut
        exact absurd (hcut ▸ by simp) hequals
  | some parts =>
    obtain ⟨front, back⟩ := parts
    obtain ⟨rfl, hfront⟩ := Text.splitOnce?_eq_some_iff.mp hsplit
    dsimp only
    split_ifs with hname
    · have hblank := Text.trimBy_eq_nil_iff.mp (List.isEmpty_iff.mp hname)
      constructor
      · rintro ⟨⟩
        exact .inr ⟨front, back, rfl, hblank, rfl⟩
      · rintro (⟨hequals, -⟩ | ⟨name, value, -, -, rfl⟩)
        · simp at hequals
        · rfl
    · refine iff_of_false nofun ?_
      rintro (⟨hequals, -⟩ | ⟨name, value, hcut, hblank, -⟩)
      · simp at hequals
      · -- Blanks hold no equals sign, so the line can be cut in one way only.
        have hname' : '=' ∉ name := fun hmem => absurd (hblank '=' hmem) (by decide)
        rw [List.cons_append, List.cons_inj_right] at hcut
        rw [hcut, Text.splitOnce?_eq_some_iff.mpr ⟨rfl, hname'⟩] at hsplit
        cases hsplit
        exact hname (List.isEmpty_iff.mpr (Text.trimBy_eq_nil_iff.mpr hblank))

theorem lineConfig_eq_error_iff {text : String} :
    lineConfig text = .error e ↔
      Text.startsWith text "\x7b" ∧ Json.parse? text = none ∧ e = .validation .stepSettings := by
  rw [lineConfig]
  split_ifs with hempty hobject
  · have hmark : ¬ Text.startsWith text "\x7b" := by
      rw [String.isEmpty_iff.mp hempty]
      decide
    simp [hmark]
  · cases Json.parse? text <;> simp [hobject, eq_comm]
  · simp [hobject]

theorem isStepLine_iff :
    isStepLine line ↔ isIgnored (Text.trim line) = false ∧ isVariableLine line = false := by
  simp [isStepLine]

theorem operator_ne_nil (h : isStepLine line) :
    (Text.trim line).toList.takeWhile (!Text.isBlank ·) ≠ [] := by
  cases htext : (Text.trim line).toList with
  | nil =>
    have hignored := (isStepLine_iff.mp h).1
    rw [String.toList_eq_nil_iff.mp htext] at hignored
    cases hignored
  | cons c rest =>
    have hc : Text.isBlank c = false := by
      refine Text.head?_trimBy Text.isBlank line.toList c ?_
      rw [← Text.toList_trim, htext]
      rfl
    simp [hc]

theorem LineFault.isVariableLine_or_isStepLine {values : String → Option Json}
    (h : LineFault values number line e) : isVariableLine line ∨ isStepLine line := by
  cases h with
  | noEquals hline _ => exact .inl hline
  | noName hline _ _ => exact .inl hline
  | notJson hline _ _ => exact .inr hline
  | unbound hline _ _ _ _ _ => exact .inr hline

/-- What is wrong with a variable line does not depend on the variables. -/
theorem lineFault_iff_of_isVariableLine {values : String → Option Json} (h : isVariableLine line) :
    LineFault values number line e ↔ ∃ reason, readBinding (Text.trim line) = .error reason ∧
      e = .validation (.variableLine number reason.message) := by
  have hstep : ¬ isStepLine line := by simp [isStepLine, h]
  constructor
  · intro hfault
    cases hfault with
    | noEquals _ hequals =>
      exact ⟨_, (readBinding_eq_error_iff h).mpr (.inl ⟨hequals, rfl⟩), rfl⟩
    | noName _ hcut hblank =>
      exact ⟨_, (readBinding_eq_error_iff h).mpr (.inr ⟨_, _, hcut, hblank, rfl⟩), rfl⟩
    | notJson hline _ _ => exact absurd hline hstep
    | unbound hline _ _ _ _ _ => exact absurd hline hstep
  · rintro ⟨reason, hreason, rfl⟩
    obtain ⟨hequals, rfl⟩ | ⟨name, value, hcut, hblank, rfl⟩ :=
      (readBinding_eq_error_iff h).mp hreason
    · exact .noEquals h hequals
    · exact .noName h hcut hblank

/-- A single line is the only place that can hold a step. -/
theorem isReadingOf_singleton {reading : Reading}
    (hbindings : reading.bindings = bindingsBelow bindings [line])
    (hlength : reading.program.steps.length = [line].countP isStepLine)
    (hstep : isStepLine line → ∃ step, reading.program.steps[0]? = some step ∧
      IsStepOf (Entries.get? · bindings) line step) :
    IsReadingOf bindings [line] reading := by
  refine ⟨hbindings, hlength, fun k stepLine hk hline => ?_⟩
  cases k with
  | zero =>
    obtain rfl : line = stepLine := by simpa using hk
    exact hstep hline
  | succ k => simp at hk

section allowed

variable (hvariables : r.allowVariables = true)
include hvariables

theorem settle_eq_substitute (config : Json) :
    r.settle bindings config = substitute bindings config :=
  if_pos hvariables

/-- A step line is faulty if its settings are no JSON though they begin like an object, or if one
of their texts needs a variable without a value. -/
theorem readStepLine_eq_error_iff (h : isStepLine line) :
    r.readStepLine bindings (Text.trim line) = .error e ↔
      (Text.startsWith (settingsText line) "\x7b" ∧ Json.parse? (settingsText line) = none ∧
        e = .validation .stepSettings) ∨
      ∃ config, lineConfig (settingsText line) = .ok config ∧
        substitute bindings config = .error e := by
  rw [← lineConfig_eq_error_iff, readStepLine,
    if_neg (by simpa [List.isEmpty_iff] using operator_ne_nil h), ← settingsText, bind_eq_error]
  refine or_congr_right (exists_congr fun config => and_congr_right fun _ => ?_)
  rw [settle_eq_substitute hvariables, bind_eq_error]
  refine ⟨?_, .inl⟩
  rintro (hfail | ⟨config', -, ⟨⟩⟩)
  exact hfail

theorem isStepOf_of_readStepLine {step : Step}
    (h : r.readStepLine bindings (Text.trim line) = .ok step) :
    IsStepOf (Entries.get? · bindings) line step := by
  obtain ⟨-, config, hconfig, config', hsettle, rfl⟩ := readStepLine_eq_ok_iff.mp h
  rw [settle_eq_substitute hvariables] at hsettle
  obtain ⟨f, hf, rfl⟩ := exists_of_substitute hsettle
  exact ⟨rfl, config, hconfig, f, hf, rfl⟩

theorem lineFault_iff_of_isStepLine (h : isStepLine line) :
    LineFault (Entries.get? · bindings) number line e ↔
      ∃ reason, r.readStepLine bindings (Text.trim line) = .error reason ∧
        e = .validation (.stepLine number reason.message) := by
  have hvariable : ¬ isVariableLine line := by simp [(isStepLine_iff.mp h).2]
  simp only [readStepLine_eq_error_iff hvariables h]
  constructor
  · intro hfault
    cases hfault with
    | noEquals hline _ => exact absurd hline hvariable
    | noName hline _ _ => exact absurd hline hvariable
    | notJson _ hobject hjson => exact ⟨_, .inl ⟨hobject, hjson, rfl⟩, rfl⟩
    | unbound _ hconfig htexts hfront hs hunbound =>
      refine ⟨_, .inr ⟨_, hconfig, ?_⟩, rfl⟩
      exact substitute_eq_error_iff.mpr ⟨_, _, _, _, htexts, hfront, hs, hunbound, rfl⟩
  · rintro ⟨reason, ⟨hobject, hjson, rfl⟩ | ⟨config, hconfig, hfail⟩, rfl⟩
    · exact .notJson h hobject hjson
    · obtain ⟨front, s, back, name, htexts, hfront, hs, hunbound, rfl⟩ :=
        substitute_eq_error_iff.mp hfail
      exact .unbound h hconfig htexts hfront hs hunbound

end allowed

section strict

theorem strictReading (r : Reader) (number : Nat) (bindings : Bindings) (line : String)
    (hstrict : r.strict = true) (hvariables : r.allowVariables = true) :
    StrictReading r number bindings line (r.readLinesFrom number bindings [line]) := by
  simp only [readLinesFrom, hstrict, hvariables, if_true, Bool.true_and]
  rw [← isVariableLine]
  split_ifs with hignored hline
  · have hvariable : ¬ isVariableLine line := by
      intro hline
      rw [isIgnored_of_isVariableLine hline] at hignored
      cases hignored
    exact .ignored hvariable (by simp [isStepLine, hignored])
  · cases hread : readBinding (Text.trim line) with
    | ok entry => exact .binding hline hread
    | error e => exact .faultyBinding hline hread
  · have hstep : isStepLine line := by simp [isStepLine, hignored, hline]
    cases hread : r.readStepLine bindings (Text.trim line) with
    | ok step => exact .step hstep hread
    | error e => exact .faultyStep hstep hread

variable (hstrict : r.strict = true) (hvariables : r.allowVariables = true)
include hstrict hvariables

/-- One line read by the strict reader: it fails for the faults of the line only. -/
theorem readLine_eq_error_iff :
    r.readLinesFrom number bindings [line] = .error e ↔
      LineFault (Entries.get? · bindings) number line e := by
  have hline := strictReading r number bindings line hstrict hvariables
  generalize r.readLinesFrom number bindings [line] = outcome at hline ⊢
  cases hline with
  | ignored hvariable hstep =>
    refine iff_of_false (by simp) fun hfault => ?_
    rcases hfault.isVariableLine_or_isStepLine with hline | hline
    · exact hvariable hline
    · exact hstep hline
  | binding hline hread | faultyBinding hline hread =>
    rw [lineFault_iff_of_isVariableLine hline]
    simp [hread, eq_comm]
  | step hline hread | faultyStep hline hread =>
    rw [lineFault_iff_of_isStepLine hvariables hline]
    simp [hread, eq_comm]

theorem isReadingOf_of_readLine {reading : Reading}
    (h : r.readLinesFrom number bindings [line] = .ok reading) :
    IsReadingOf bindings [line] reading := by
  have hline := strictReading r number bindings line hstrict hvariables
  rw [h] at hline
  cases hline with
  | ignored hvariable hstep =>
    exact isReadingOf_singleton (by simp [bindingsBelow, declaration?, hvariable])
      (by simp [hstep]) fun hline => absurd hline hstep
  | binding hline hread =>
    have hstep : ¬ isStepLine line := by simp [isStepLine, hline]
    refine isReadingOf_singleton ?_ (by simp [hstep]) fun hline => absurd hline hstep
    simp [bindingsBelow, declaration?, hline, hread, Except.toOption]
  | @step step hline hread =>
    have hvariable : ¬ isVariableLine line := by simp [(isStepLine_iff.mp hline).2]
    refine isReadingOf_singleton ?_ (by simp [hline]) fun _ => ?_
    · simp [bindingsBelow, declaration?, hvariable]
    · exact ⟨step, rfl, isStepOf_of_readStepLine hvariables hread⟩

end strict

end lines

section runs

variable {r : Reader} {number : Nat} {bindings : Bindings} {line : String}
variable {rest lines : List String} {e : Failure}

theorem IsReadingOf.append {first second : Reading} (hfirst : IsReadingOf bindings [line] first)
    (hsecond : IsReadingOf first.bindings rest second) :
    IsReadingOf bindings (line :: rest) (first.append second) := by
  obtain ⟨hbindings, hlength, hstep⟩ := hfirst
  rw [hbindings] at hsecond
  have hcount : ∀ above : List String, (line :: above).countP isStepLine =
      first.program.steps.length + above.countP isStepLine := by
    intro above
    rw [hlength, ← List.countP_append, List.singleton_append]
  constructor
  · rw [bindingsBelow_cons]
    exact hsecond.bindings_eq
  · rw [hcount, ← hsecond.length_steps]
    exact List.length_append
  · intro k stepLine hk hline
    cases k with
    | zero =>
      obtain rfl : line = stepLine := by simpa using hk
      obtain ⟨step, hget, hof⟩ := hstep 0 line rfl hline
      refine ⟨step, ?_, hof⟩
      obtain ⟨hpos, -⟩ := List.getElem?_eq_some_iff.mp hget
      exact (List.getElem?_append_left hpos).trans hget
    | succ k =>
      obtain ⟨step, hget, hof⟩ := hsecond.step_of k stepLine (by simpa using hk) hline
      rw [List.take_succ_cons, valueBelow_cons, hcount]
      refine ⟨step, ?_, hof⟩
      rw [← hget]
      exact (List.getElem?_append_right (Nat.le_add_right _ _)).trans (by simp)

theorem isFirstFault_cons_iff :
    IsFirstFault bindings number (line :: rest) e ↔
      LineFault (Entries.get? · bindings) number line e ∨
        (∀ e', ¬ LineFault (Entries.get? · bindings) number line e') ∧
          IsFirstFault (bindingsBelow bindings [line]) (number + 1) rest e := by
  have hbelow : ∀ k, valueBelow bindings ((line :: rest).take (k + 1)) =
      valueBelow (bindingsBelow bindings [line]) (rest.take k) := by
    intro k
    rw [List.take_succ_cons, valueBelow_cons]
  have hnumber : ∀ k, number + (k + 1) = number + 1 + k := by
    intro k
    omega
  constructor
  · rintro ⟨k, faulty, hk, hfault, hbefore⟩
    cases k with
    | zero =>
      obtain rfl : line = faulty := by simpa using hk
      exact .inl hfault
    | succ k =>
      rw [hbelow, hnumber] at hfault
      refine .inr ⟨hbefore 0 line (Nat.succ_pos k) rfl, k, faulty, by simpa using hk, hfault, ?_⟩
      intro i earlier hi hget
      have hclean := hbefore (i + 1) earlier (Nat.succ_lt_succ hi) (by simpa using hget)
      rwa [hbelow, hnumber] at hclean
  · rintro (hfault | ⟨hclean, k, faulty, hk, hfault, hbefore⟩)
    · exact ⟨0, line, rfl, hfault, fun i earlier hi => absurd hi (Nat.not_lt_zero i)⟩
    · refine ⟨k + 1, faulty, by simpa using hk, ?_, ?_⟩
      · rw [hbelow, hnumber]
        exact hfault
      · intro i earlier hi hget
        cases i with
        | zero =>
          obtain rfl : line = earlier := by simpa using hget
          exact hclean
        | succ i =>
          rw [hbelow, hnumber]
          exact hbefore i earlier (Nat.lt_of_succ_lt_succ hi) (by simpa using hget)

variable (hstrict : r.strict = true) (hvariables : r.allowVariables = true)
include hstrict hvariables

theorem isReadingOf_of_readLinesFrom {reading : Reading}
    (h : r.readLinesFrom number bindings lines = .ok reading) :
    IsReadingOf bindings lines reading := by
  induction lines generalizing number bindings reading with
  | nil =>
    cases h
    exact ⟨rfl, rfl, fun k line hk => by simp at hk⟩
  | cons line rest ih =>
    rw [readLinesFrom_cons, bind_eq_ok] at h
    obtain ⟨first, hfirst, h⟩ := h
    obtain ⟨second, hsecond, ⟨⟩⟩ := bind_eq_ok.mp h
    exact (isReadingOf_of_readLine hstrict hvariables hfirst).append (ih hsecond)

theorem readLinesFrom_eq_error_iff :
    r.readLinesFrom number bindings lines = .error e ↔ IsFirstFault bindings number lines e := by
  induction lines generalizing number bindings with
  | nil => exact iff_of_false nofun fun ⟨k, line, hk, _⟩ => by simp at hk
  | cons line rest ih =>
    rw [readLinesFrom_cons, bind_eq_error, isFirstFault_cons_iff,
      readLine_eq_error_iff hstrict hvariables]
    refine or_congr_right ?_
    simp only [← readLine_eq_error_iff hstrict hvariables (r := r)]
    cases hfirst : r.readLinesFrom number bindings [line] with
    | error reason => simp
    | ok first =>
      rw [← (isReadingOf_of_readLine hstrict hvariables hfirst).bindings_eq, ← ih]
      cases hrest : r.readLinesFrom (number + 1) first.bindings rest <;> simp [hrest]

end runs

/-- A program of lines is read by the strict reader with every variable in its scope: each step has
the texts of its line replaced under the values on the lines above, and all variable lines together
make up the variables at the end. Otherwise the first faulty line is the reason. -/
theorem read_lines_scoped {r : Reader} {source : String} (hstrict : r.strict = true)
    (hvariables : r.allowVariables = true) (hform : formOf source = .lines) :
    (∀ reading, r.read source = .ok reading →
      IsReadingOf r.bindings (Text.lines source) reading) ∧
    ∀ e, r.read source = .error e ↔ IsFirstFault r.bindings 1 (Text.lines source) e := by
  have hread : r.read source = r.readLinesFrom 1 r.bindings (Text.lines source) := by
    rw [read, hform, readAs, readLines]
  rw [hread]
  constructor
  · intro reading h
    exact isReadingOf_of_readLinesFrom hstrict hvariables h
  · intro e
    exact readLinesFrom_eq_error_iff hstrict hvariables

/-- A variable bound twice, one bound to a text that looks like a variable, and one without a value.
What is bound further down has no value yet. -/
theorem read_lines_scoped_rebound :
    let r : Reader := ⟨true, true, [("x", .str "$y")]⟩
    let source := "$y=id\ncols \x7b\"a\":[\"$x\",\"$\x7by\x7d\",\"$z\"],\"$y\":1\x7d\n" ++
      "$y=id,3\ncols $y\n"
    let steps : List Step :=
      [⟨"cols", .obj [("a", .arr [.str "$y", .str "id", .str "$z"]), ("$y", .int 1)]⟩,
        ⟨"cols", .obj [("args", .arr [.arr [.str "id", .int 3]])]⟩]
    IsReadingOf r.bindings (Text.lines source)
        ⟨⟨steps⟩, [], [("x", .str "$y"), ("y", .arr [.str "id", .int 3])]⟩ ∧
      r.read "cols $\x7by\x7d\n$y=id\n$=1" = .error
        (.validation (.stepLine 1 (Failure.validation (.undefinedVariable "y")).message)) := by
  intro r source steps
  have hread : r.read source =
      .ok ⟨⟨steps⟩, [], [("x", .str "$y"), ("y", .arr [.str "id", .int 3])]⟩ := by
    decide +kernel
  have hform : formOf source = .lines := by decide +kernel
  have hunboundForm : formOf "cols $\x7by\x7d\n$y=id\n$=1" = .lines := by decide +kernel
  have hfault : IsFirstFault r.bindings 1 (Text.lines "cols $\x7by\x7d\n$y=id\n$=1")
      (.validation (.stepLine 1 (Failure.validation (.undefinedVariable "y")).message)) := by
    have hfirst : (Text.lines "cols $\x7by\x7d\n$y=id\n$=1")[0]? = some "cols $\x7by\x7d" := by
      decide +kernel
    have hconfig : lineConfig (settingsText "cols $\x7by\x7d") =
        .ok (.obj [("args", .arr [.str "$\x7by\x7d"])]) := by
      decide +kernel
    refine ⟨0, _, hfirst, ?_, fun i earlier hi => absurd hi (Nat.not_lt_zero i)⟩
    have htexts : (Json.obj [("args", .arr [.str "$\x7by\x7d"])]).texts =
        [] ++ "$\x7by\x7d" :: [] := rfl
    refine .unbound (by decide +kernel) hconfig htexts ?_ (by decide +kernel) ?_
    · exact fun t ht => absurd ht List.not_mem_nil
    · decide +kernel
  exact ⟨(read_lines_scoped (r := r) rfl rfl hform).1 _ hread,
    ((read_lines_scoped (r := r) rfl rfl hunboundForm).2 _).mpr hfault⟩

end ColumnSelection.Program.Reader
