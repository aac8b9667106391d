import ColumnSelection.Batch.Operator
import ColumnSelection.Proofs.Compiling

/-!
# Validation faults

Reading and compiling a program, and making an operator from a configuration, fail in one way
only: by a validation fault. Every operator that a step can name has a compiler in the place where
it is looked for, behind other steps or in front, so that the internal failures for operators
without one are never met.
-/
namespace ColumnSelection

/-- The computation succeeds or fails with a validation fault. -/
abbrev ValidationFaultOnly {α : Type} (x : Except Failure α) : Prop :=
  FailsWithin (fun e => ∃ fault, e = .validation fault) x

namespace ValidationFaultOnly

theorem fault {α : Type} (f : ValidationFault) :
    ValidationFaultOnly (.error (.validation f) : Except Failure α) :=
  .error ⟨f, rfl⟩

end ValidationFaultOnly

/-- The computation gives a result or fails with a validation fault. -/
def Logged.IsValidated {α : Type} (x : Logged α) : Prop :=
  (∃ a, x.outcome = .ok a) ∨ ∃ fault, x.outcome = .error (.validation fault)

theorem Logged.isValidated_iff {α : Type} {x : Logged α} :
    x.IsValidated ↔ ValidationFaultOnly x.outcome := by
  obtain ⟨outcome, notices⟩ := x
  cases outcome with
  | ok a => exact iff_of_true (.inl ⟨a, rfl⟩) (.ok a)
  | error e =>
    constructor
    · rintro (⟨a, h⟩ | ⟨fault, h⟩)
      · cases h
      · cases h
        exact .fault fault
    · intro h
      obtain ⟨fault, rfl⟩ := h e rfl
      exact .inr ⟨fault, rfl⟩

theorem DataType.validationFaultOnly_parse (text : String) :
    ValidationFaultOnly (DataType.parse text) := by
  unfold DataType.parse
  dsimp only
  split
  · exact .ok _
  · exact .fault _

theorem Kind.validationFaultOnly_parse (text : String) :
    ValidationFaultOnly (Kind.parse text) := by
  unfold Kind.parse
  dsimp only
  split_ifs
  · exact .ok _
  · exact .ok _
  · split
    · exact .ok _
    · exact .fault _

namespace Program

section arguments

variable (o : Operator) (config j : Json)

theorem validationFaultOnly_nameOf : ValidationFaultOnly (nameOf j) := by
  cases j with
  | str s => exact .ok s
  | int n => exact .ok _
  | float x => exact .ok _
  | _ => exact .fault _

theorem validationFaultOnly_namesOf : ValidationFaultOnly (namesOf j) := by
  have hone : ValidationFaultOnly (do return [← nameOf j]) :=
    .bind (validationFaultOnly_nameOf j) fun name => .ok [name]
  cases j with
  | arr items => exact .mapM validationFaultOnly_nameOf items
  | _ => exact hone

theorem validationFaultOnly_missing {α : Type} (what : String) :
    ValidationFaultOnly (missing o what : Except Failure α) :=
  .fault _

theorem validationFaultOnly_countOf : ValidationFaultOnly (countOf o j) := by
  unfold countOf
  dsimp only
  split
  · exact .ok _
  · exact .fault _

theorem validationFaultOnly_countArgument : ValidationFaultOnly (countArgument o config) := by
  unfold countArgument
  split
  · exact validationFaultOnly_missing o _
  · exact validationFaultOnly_countOf o _

theorem validationFaultOnly_textArgument : ValidationFaultOnly (textArgument o config) := by
  unfold textArgument
  split
  · exact validationFaultOnly_missing o _
  · exact validationFaultOnly_nameOf _

theorem validationFaultOnly_typeArgument : ValidationFaultOnly (typeArgument o config) := by
  unfold typeArgument
  split
  · exact validationFaultOnly_missing o _
  · exact .bind (validationFaultOnly_nameOf _) DataType.validationFaultOnly_parse

theorem validationFaultOnly_kindsArgument : ValidationFaultOnly (kindsArgument o config) := by
  have hkind : ∀ j, ValidationFaultOnly (do Kind.parse (← nameOf j)) :=
    fun j => .bind (validationFaultOnly_nameOf j) Kind.validationFaultOnly_parse
  refine .bind (.mapM hkind _) fun kinds => ?_
  split_ifs
  · exact validationFaultOnly_missing o _
  · exact .ok kinds

theorem validationFaultOnly_groupArgument : ValidationFaultOnly (groupArgument o config) := by
  unfold groupArgument
  split
  · exact .bind (validationFaultOnly_nameOf _) fun _ => .ok _
  · exact .bind (validationFaultOnly_nameOf _) fun _ => .ok _
  · exact validationFaultOnly_missing o _

end arguments

section predicates

theorem validationFaultOnly_matchesName (text : String) :
    ValidationFaultOnly (matchesName text) := by
  unfold matchesName
  split
  · exact .ok _
  · exact .fault _

theorem validationFaultOnly_plainFilter? {ignoreCase : Bool} {key : String} {j : Json}
    {p : Except Failure Predicate} (h : plainFilter? ignoreCase key j = some p) :
    ValidationFaultOnly p := by
  have hname := validationFaultOnly_nameOf j
  have hkinds : ValidationFaultOnly (do
      return Predicate.kindIn (← (← namesOf j).mapM Kind.parse)) := by
    refine .bind (validationFaultOnly_namesOf j) fun names => ?_
    exact .bind (.mapM Kind.validationFaultOnly_parse names) fun _ => .ok _
  have htype : ValidationFaultOnly (do
      return Predicate.typeBelow (← DataType.parse (← nameOf j))) := by
    refine .bind hname fun name => ?_
    exact .bind (DataType.validationFaultOnly_parse name) fun _ => .ok _
  unfold plainFilter? at h
  split at h <;> cases h
  · exact .bind hname fun _ => .ok _
  · exact .bind hname fun _ => .ok _
  · exact .bind hname fun _ => .ok _
  · exact .bind hname fun _ => .ok _
  · exact .bind hname validationFaultOnly_matchesName
  · exact hkinds
  · exact hkinds
  · exact htype

mutual

theorem validationFaultOnly_readPredicate : ∀ j : Json, ValidationFaultOnly (readPredicate j)
  | .null => .ok _
  | .str _ => .ok _
  | .arr items => .bind (validationFaultOnly_readPredicates items) fun _ => .ok _
  | .obj fields => .bind (validationFaultOnly_readFilters _ fields) fun _ => .ok _
  | .bool _ => .fault _
  | .int _ => .fault _
  | .float _ => .fault _
termination_by structural j => j

theorem validationFaultOnly_readPredicates :
    ∀ items : List Json, ValidationFaultOnly (readPredicates items)
  | [] => .ok _
  | j :: rest => by
    refine .bind (validationFaultOnly_readPredicate j) fun p => ?_
    exact .bind (validationFaultOnly_readPredicates rest) fun ps => .ok (p :: ps)
termination_by structural items => items

theorem validationFaultOnly_readFilters (ignoreCase : Bool) :
    ∀ fields : List (String × Json), ValidationFaultOnly (readFilters ignoreCase fields)
  | [] => .ok _
  | (key, j) :: rest => by
    have hnested := validationFaultOnly_readPredicate j
    have hrest : ∀ here : List Predicate,
        ValidationFaultOnly (do return here ++ (← readFilters ignoreCase rest)) :=
      fun here => .bind (validationFaultOnly_readFilters ignoreCase rest) fun _ => .ok _
    rw [readFilters]
    split
    · next p hp =>
      exact .bind (validationFaultOnly_plainFilter? hp) fun p => hrest [p]
    · split_ifs
      · exact .bind hnested fun p => hrest _
      · exact .bind hnested fun p => hrest _
      · exact .bind hnested fun p => hrest _
      · exact .bind hnested fun p => hrest _
      · exact hrest []
termination_by structural fields => fields

end

theorem validationFaultOnly_predicateArgument? (config : Json) :
    ValidationFaultOnly (predicateArgument? config) := by
  unfold predicateArgument?
  split
  · exact .bind (validationFaultOnly_readPredicate _) fun _ => .ok _
  · split
    · split_ifs
      · exact .bind (validationFaultOnly_readPredicate _) fun _ => .ok _
      · exact .ok none
    · exact .ok none

theorem validationFaultOnly_predicateArgument (config : Json) :
    ValidationFaultOnly (predicateArgument config) :=
  .bind (validationFaultOnly_predicateArgument? config) fun _ => .ok _

theorem validationFaultOnly_sourceFilter (o : Operator) (config : Json) :
    ValidationFaultOnly (sourceFilter o config) := by
  cases o with
  | colsOf => exact .bind (validationFaultOnly_typeArgument _ config) fun _ => .ok _
  | colsOfKind => exact .bind (validationFaultOnly_kindsArgument _ config) fun _ => .ok _
  | _ => exact validationFaultOnly_predicateArgument config

end predicates

section substitution

variable (bindings : Bindings)

mutual

theorem validationFaultOnly_substitute : ∀ j : Json, ValidationFaultOnly (substitute bindings j)
  | .str s => by
    rw [substitute, substituteText]
    split
    · split
      · exact .ok _
      · exact .fault _
    · exact .ok _
    · exact .ok _
  | .arr items => .bind (validationFaultOnly_substituteItems items) fun _ => .ok _
  | .obj fields => .bind (validationFaultOnly_substituteFields fields) fun _ => .ok _
  | .null => .ok _
  | .bool _ => .ok _
  | .int _ => .ok _
  | .float _ => .ok _
termination_by structural j => j

theorem validationFaultOnly_substituteItems :
    ∀ items : List Json, ValidationFaultOnly (substituteItems bindings items)
  | [] => .ok _
  | j :: rest => by
    refine .bind (validationFaultOnly_substitute j) fun item => ?_
    exact .bind (validationFaultOnly_substituteItems rest) fun items => .ok (item :: items)
termination_by structural items => items

theorem validationFaultOnly_substituteFields :
    ∀ fields : List (String × Json), ValidationFaultOnly (substituteFields bindings fields)
  | [] => .ok _
  | (key, j) :: rest => by
    refine .bind (validationFaultOnly_substitute j) fun value => ?_
    refine .bind (validationFaultOnly_substituteFields rest) fun fields => ?_
    exact .ok ((key, value) :: fields)
termination_by structural fields => fields

end

end substitution

namespace Reader

variable (r : Reader) (bindings : Bindings)

theorem validationFaultOnly_settle (config : Json) :
    ValidationFaultOnly (r.settle bindings config) := by
  unfold settle
  split_ifs
  · exact validationFaultOnly_substitute bindings config
  · exact .ok config

theorem validationFaultOnly_lineConfig (text : String) : ValidationFaultOnly (lineConfig text) := by
  unfold lineConfig
  split_ifs
  · exact .ok _
  · split
    · exact .ok _
    · exact .fault _
  · exact .ok _

theorem validationFaultOnly_readStepLine (line : String) :
    ValidationFaultOnly (r.readStepLine bindings line) := by
  unfold readStepLine
  dsimp only
  split_ifs
  · exact .fault _
  · refine .bind (validationFaultOnly_lineConfig _) fun config => ?_
    exact .bind (validationFaultOnly_settle r bindings config) fun _ => .ok _

theorem validationFaultOnly_readStep (j : Json) : ValidationFaultOnly (r.readStep j) := by
  unfold readStep
  split
  · split
    · exact .fault _
    · exact .bind (validationFaultOnly_settle r _ _) fun _ => .ok _
  · exact validationFaultOnly_readStepLine r _ _
  · exact .fault _

theorem validationFaultOnly_readSteps (index : Nat) (items : List Json) :
    ValidationFaultOnly (r.readSteps index items) := by
  induction items generalizing index with
  | nil => exact .ok _
  | cons j rest ih =>
    rw [readSteps]
    split
    · exact .bind (ih (index + 1)) fun _ => .ok _
    · split_ifs
      · exact .fault _
      · exact .bind (ih (index + 1)) fun _ => .ok _

theorem validationFaultOnly_readStepList (items : List Json) :
    ValidationFaultOnly (r.readStepList items) :=
  .bind (validationFaultOnly_readSteps r 0 items) fun _ => .ok _

theorem validationFaultOnly_readDocument (document : Json) :
    ValidationFaultOnly (r.readDocument document) := by
  unfold readDocument
  split
  · exact validationFaultOnly_readStepList r _
  · split
    · exact validationFaultOnly_readStepList r _
    · exact .fault _
    · split_ifs
      · exact .bind (validationFaultOnly_readStep r _) fun _ => .ok _
      · exact .fault _
  · exact .fault _

theorem validationFaultOnly_readJson (source : String) :
    ValidationFaultOnly (r.readJson source) := by
  unfold readJson
  split
  · exact validationFaultOnly_readDocument r _
  · exact .fault _

theorem validationFaultOnly_readYaml (source : String) :
    ValidationFaultOnly (r.readYaml source) := by
  unfold readYaml
  split
  · exact validationFaultOnly_readDocument r _
  · exact .fault _

theorem validationFaultOnly_readLinesFrom (number : Nat) (lines : List String) :
    ValidationFaultOnly (r.readLinesFrom number bindings lines) := by
  induction lines generalizing number bindings with
  | nil => exact .ok _
  | cons line rest ih =>
    have hrest : ∀ bindings, ValidationFaultOnly (r.readLinesFrom (number + 1) bindings rest) :=
      fun bindings => ih bindings (number + 1)
    have hmore : ∀ f : Reading → Reading, ValidationFaultOnly (do
        return f (← r.readLinesFrom (number + 1) bindings rest)) :=
      fun f => .bind (hrest bindings) fun _ => .ok _
    rw [readLinesFrom]
    split
    · exact hrest bindings
    split
    · split
      · exact hrest _
      · split
        · exact .fault _
        · exact hmore _
    · split
      · exact hmore _
      · split
        · exact .fault _
        · exact hmore _

/-- In whatever form a program is written, reading it fails only with a validation fault. -/
theorem validationFaultOnly_read (source : String) : ValidationFaultOnly (r.read source) := by
  unfold read readAs
  split
  · exact validationFaultOnly_readJson r source
  · exact validationFaultOnly_readYaml r source
  · exact validationFaultOnly_readLinesFrom r _ 1 _

end Reader

section compiling

variable {nested : Nested} {config : Json}
  (h : ∀ q, Holds config q → ValidationFaultOnly (nested q).outcome)

include h

theorem validationFaultOnly_nestedProgram {j : Json} (hget : config.get? "steps" = some j) :
    ValidationFaultOnly (nestedProgram nested j).outcome := by
  cases j with
  | arr items =>
    rw [nestedProgram]
    cases hsteps : items.mapM fun item => (⟨false, true, []⟩ : Reader).readStep item with
    | error e =>
      have hitems := FailsWithin.mapM (Reader.validationFaultOnly_readStep ⟨false, true, []⟩) items
      exact .error (hitems e hsteps)
    | ok steps => exact h ⟨steps⟩ ⟨items, hget, hsteps⟩
  | _ => exact .fault _

theorem validationFaultOnly_innerSelection? (args : List Json) :
    ValidationFaultOnly (innerSelection? nested config args).outcome := by
  unfold innerSelection?
  split
  · next hget => exact .outcome_bind (validationFaultOnly_nestedProgram h hget) fun _ => .ok _
  · refine .outcome_bind ?_ fun names => ?_
    · rw [Logged.outcome_ofExcept]
      split
      · exact validationFaultOnly_namesOf _
      · exact .mapM validationFaultOnly_nameOf args
    · split_ifs
      · exact .ok _
      · exact .ok _

theorem validationFaultOnly_innerSelection (o : Operator) :
    ValidationFaultOnly (innerSelection nested o config).outcome := by
  refine .outcome_bind (validationFaultOnly_innerSelection? h _) fun inner => ?_
  cases inner with
  | none => exact validationFaultOnly_missing o _
  | some inner => exact .ok inner

/-- Every source has a compiler for the beginning of a selection. -/
theorem validationFaultOnly_startSelection {o : Operator} (hsource : o.isSource = true) :
    ValidationFaultOnly (startSelection nested o config).outcome := by
  have hgroup := validationFaultOnly_groupArgument o config
  have hpredicate := validationFaultOnly_predicateArgument config
  cases o with
  | all => exact .ok _
  | colsAt => exact .outcome_bind (.mapM (validationFaultOnly_countOf _) _) fun _ => .ok _
  | colsWhere | colsAtAnyDepth => exact .outcome_bind hpredicate fun _ => .ok _
  | colsOf => exact .outcome_bind (validationFaultOnly_typeArgument _ config) fun _ => .ok _
  | colsOfKind => exact .outcome_bind (validationFaultOnly_kindsArgument _ config) fun _ => .ok _
  | allExcept => exact .outcome_bind (validationFaultOnly_innerSelection h _) fun _ => .ok _
  | within =>
    refine .outcome_bind hgroup fun group => ?_
    exact .outcome_bind (validationFaultOnly_innerSelection? h _) fun _ => .ok _
  | allColsExcept =>
    refine .outcome_bind hgroup fun group => ?_
    refine .outcome_bind (validationFaultOnly_innerSelection? h _) fun exclusion => ?_
    cases exclusion with
    | none => exact validationFaultOnly_missing _ _
    | some exclusion => exact .ok _
  | col | cols =>
    refine .outcome_bind (.mapM validationFaultOnly_nameOf _) fun names => ?_
    split_ifs
    · exact validationFaultOnly_missing _ _
    · exact .ok _
  | _ => exact absurd hsource (by decide)

/-- Every operator that is no source has a compiler for the refinement of a selection. -/
theorem validationFaultOnly_refine {o : Operator} (hsource : o.isSource = false)
    (set : Selection) : ValidationFaultOnly (refine nested o config set).outcome := by
  have hcount := validationFaultOnly_countArgument o config
  have htext := validationFaultOnly_textArgument o config
  have hpredicate := validationFaultOnly_predicateArgument config
  have hpredicate? := validationFaultOnly_predicateArgument? config
  cases o with
  | and | except => exact .outcome_bind (validationFaultOnly_innerSelection h _) fun _ => .ok _
  | take | takeLast | drop | dropLast => exact .outcome_bind hcount fun _ => .ok _
  | takeWhile | takeLastWhile | dropWhile | dropLastWhile | filter =>
    exact .outcome_bind hpredicate fun _ => .ok _
  | distinct | simplify | colsInGroups => exact .ok _
  | nameContains | nameStartsWith | nameEndsWith | named =>
    exact .outcome_bind htext fun _ => .ok _
  | nameMatches =>
    refine .outcome_bind htext fun text => ?_
    exact .outcome_bind (validationFaultOnly_matchesName text) fun _ => .ok _
  | firstCol | lastCol | singleCol => exact .outcome_bind hpredicate? fun _ => .ok _
  | _ => exact absurd hsource (by decide)

theorem validationFaultOnly_applyOperator (current : Option Selection) (o : Operator) :
    ValidationFaultOnly (applyOperator nested current o config).outcome := by
  unfold applyOperator
  by_cases hsource : o.isSource = true
  · rw [if_pos hsource]
    cases current with
    | none => exact validationFaultOnly_startSelection h hsource
    | some set =>
      dsimp only
      split_ifs
      · exact .outcome_bind (validationFaultOnly_sourceFilter o config) fun _ => .ok _
      · exact .fault _
  · rw [if_neg hsource]
    exact validationFaultOnly_refine h (Bool.eq_false_of_not_eq_true hsource) _

end compiling

theorem validationFaultOnly_operatorOf (strict : Bool) (step : Step) :
    ValidationFaultOnly (operatorOf strict step).outcome := by
  cases hname : Operator.lookup step.operator with
  | some name =>
    obtain ⟨notices, -, hoperator⟩ := exists_operatorOf_eq hname
    rw [hoperator]
    exact .ok _
  | none =>
    cases strict with
    | true =>
      rw [operatorOf_strict hname]
      exact .fault _
    | false =>
      rw [operatorOf_lenient hname]
      exact .ok _

theorem validationFaultOnly_compileSteps {nested : Nested} (strict : Bool) {steps : List Step}
    (h : ∀ step ∈ steps, ∀ q, Holds step.config q → ValidationFaultOnly (nested q).outcome)
    (current : Option Selection) :
    ValidationFaultOnly (compileSteps nested strict current steps).outcome := by
  induction steps generalizing current with
  | nil => exact .ok _
  | cons step rest ih =>
    rw [List.forall_mem_cons] at h
    rw [compileSteps]
    refine .outcome_bind (validationFaultOnly_operatorOf strict step) fun o => ?_
    cases o with
    | none => exact ih h.2 current
    | some o =>
      exact .outcome_bind (validationFaultOnly_applyOperator h.1 current o) fun set =>
        ih h.2 (some set)

/-- Compiling fails only with a validation fault, however deep programs are nested. -/
theorem validationFaultOnly_compile (strict : Bool) (p : Program) :
    ValidationFaultOnly (compile strict p).outcome := by
  -- A program that a step holds is smaller than the program of the step.
  induction hsize : p.size using Nat.strong_induction_on generalizing p with
  | _ n ih =>
    rw [compile_eq]
    refine .outcome_bind (validationFaultOnly_compileSteps strict ?_ none) fun set => ?_
    · intro step hstep q hq
      have hlt := size_lt_of_holds hq
      have hle := size_config_le hstep
      exact ih q.size (by omega) q rfl
    · cases set with
      | none => exact ValidationFaultOnly.fault _
      | some set => exact .ok set

theorem validationFaultOnly_compileSource (strict : Bool) (source : String) :
    ValidationFaultOnly (compileSource strict source).outcome := by
  refine .outcome_bind (Reader.validationFaultOnly_read _ source) fun reading => ?_
  exact .outcome_bind (.ok _) fun _ => validationFaultOnly_compile strict reading.program

theorem validationFaultOnly_compileValue (strict : Bool) (j : Json) :
    ValidationFaultOnly (compileValue strict j).outcome := by
  cases j with
  | str source => exact validationFaultOnly_compileSource strict source
  | _ => exact validationFaultOnly_compileSource strict _

end Program

theorem Settings.validationFaultOnly_ofJson (j : Json) :
    ValidationFaultOnly (Settings.ofJson j) := by
  unfold Settings.ofJson
  split
  · exact .ok _
  · exact .fault _

namespace BatchOperator

theorem validationFaultOnly_settingsOf (action : BatchAction) (fields : List (String × Json)) :
    ValidationFaultOnly (settingsOf action fields) := by
  refine .bind (Settings.validationFaultOnly_ofJson _) fun settings => ?_
  split
  · exact .ok settings
  · split
    · exact .ok _
    · exact ValidationFaultOnly.fault _

theorem validationFaultOnly_configure (action : BatchAction) (config : Json) :
    ValidationFaultOnly (configure action config).outcome := by
  unfold configure
  split
  · split
    · exact .fault _
    · next program _ =>
      refine .outcome_bind (Program.validationFaultOnly_compileValue _ program) fun selection => ?_
      refine .outcome_bind (validationFaultOnly_settingsOf action _) fun settings => ?_
      cases action with
      | select => exact .ok _
      | remove => exact .ok _
  · exact .fault _

theorem validationFaultOnly_create (name : String) (config : Json) :
    ValidationFaultOnly (create name config).outcome := by
  unfold create
  split
  · exact validationFaultOnly_configure _ config
  · exact .fault _

/-- Whatever the name and the configuration, either an operator is made or there is a validation
fault. The same holds of compiling any program, source or value, so that an operator without a
compiler is never met. -/
theorem isValidated_create :
    (∀ name config, (create name config).IsValidated) ∧
      (∀ strict program, (Program.compile strict program).IsValidated) ∧
      (∀ strict source, (Program.compileSource strict source).IsValidated) ∧
      ∀ strict j, (Program.compileValue strict j).IsValidated := by
  simp only [Logged.isValidated_iff]
  exact ⟨validationFaultOnly_create, Program.validationFaultOnly_compile,
    Program.validationFaultOnly_compileSource, Program.validationFaultOnly_compileValue⟩

end BatchOperator

end ColumnSelection
