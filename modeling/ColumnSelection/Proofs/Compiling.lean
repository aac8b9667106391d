import ColumnSelection.Program.Compile
import ColumnSelection.Proofs.StepReading

/-!
# Compiling step by step

The program that a configuration holds is smaller than the configuration. The depth with which a
program is compiled therefore never runs out, and compiling satisfies the equation that calls
itself on the programs held. Two compilations that agree step by step agree on the whole program.
-/
namespace ColumnSelection

/-- A relation of computations that holds between a silent computation and itself and that goes
on through further steps. -/
structure Logged.IsCongruence (R : ∀ ⦃α : Type⦄, Logged α → Logged α → Prop) : Prop where
  silent : ∀ {α : Type} {x : Logged α}, x.notices = [] → R x x
  bind : ∀ {α β : Type} {x y : Logged α} {f g : α → Logged β},
    R x y → (∀ a, R (f a) (g a)) → R (x >>= f) (y >>= g)

theorem Logged.isCongruence_eq : IsCongruence fun _ x y => x = y where
  silent _ := rfl
  bind hxy hfg := by rw [hxy, funext hfg]

/-- If the first computation succeeds, the second is the same. -/
theorem Logged.isCongruence_of_ok : IsCongruence fun _ x y => ∀ a, x.outcome = .ok a → y = x where
  silent _ _ _ := rfl
  bind {α β x y f g} hxy hfg b hb := by
    obtain ⟨a, hx, hf⟩ := outcome_bind_eq_ok.mp hb
    rw [hxy a hx]
    obtain ⟨outcome, notices⟩ := x
    cases hx
    change (⟨(g a).outcome, notices ++ (g a).notices⟩ : Logged β) =
      ⟨(f a).outcome, notices ++ (f a).notices⟩
    rw [hfg a b hf]

/-- All notices of the first computation are of one kind. -/
theorem Logged.isCongruence_notices (P : Notice → Prop) :
    IsCongruence fun _ x _ => ∀ notice ∈ x.notices, P notice where
  silent hnil notice hmem := by
    rw [hnil] at hmem
    cases hmem
  bind {α β x y f g} hx hf notice hmem := by
    obtain ⟨outcome, notices⟩ := x
    cases outcome with
    | error e => exact hx notice hmem
    | ok a =>
      rcases List.mem_append.mp hmem with hmem | hmem
      · exact hx notice hmem
      · exact hf a notice hmem

namespace Program

/-- The size of the configurations of a program. -/
def size (p : Program) : Nat :=
  (p.steps.map fun step => step.config.size).sum

theorem weight_eq_sum (p : Program) :
    p.weight = (p.steps.map fun step => step.config.weight).sum := by
  have hfold : ∀ (steps : List Step) (n : Nat),
      steps.foldl (fun n step => n + step.config.weight) n =
        n + (steps.map fun step => step.config.weight).sum := by
    intro steps
    induction steps with
    | nil => exact fun n => rfl
    | cons step rest ih =>
      intro n
      rw [List.foldl_cons, ih, List.map_cons, List.sum_cons, Nat.add_assoc]
  rw [weight, hfold, Nat.zero_add]

theorem size_le_weight (p : Program) : p.size ≤ p.weight := by
  rw [weight_eq_sum, size]
  exact List.sum_le_sum fun step _ => step.config.size_le_weight

theorem size_config_le {p : Program} {step : Step} (h : step ∈ p.steps) :
    step.config.size ≤ p.size :=
  List.single_le_sum (fun n _ => Nat.zero_le n) _ (List.mem_map_of_mem h)

/-- A configuration with a list of steps under `steps`, and the program that these make. -/
def Holds (config : Json) (q : Program) : Prop :=
  ∃ items, config.get? "steps" = some (.arr items) ∧
    (items.mapM fun item => (⟨false, true, []⟩ : Reader).readStep item) = .ok q.steps

theorem sum_size_le_of_readSteps {r : Reader} (hr : r.bindings = []) {items : List Json}
    {steps : List Step} (h : (items.mapM fun item => r.readStep item) = .ok steps) :
    (steps.map fun step => step.config.size).sum ≤ Json.sizeItems items := by
  induction items generalizing steps with
  | nil =>
    cases h
    exact le_rfl
  | cons item rest ih =>
    rw [List.mapM_cons] at h
    obtain ⟨step, hstep, h⟩ := bind_eq_ok.mp h
    obtain ⟨others, hothers, h⟩ := bind_eq_ok.mp h
    cases h
    rw [List.map_cons, List.sum_cons]
    exact Nat.add_le_add (r.size_readStep_le hr hstep) (ih hothers)

theorem size_lt_of_holds {config : Json} {q : Program} (h : Holds config q) :
    q.size < config.size := by
  obtain ⟨items, hget, hsteps⟩ := h
  calc q.size ≤ Json.sizeItems items := sum_size_le_of_readSteps rfl hsteps
    _ < (Json.arr items).size := by rw [Json.size_arr]; omega
    _ < config.size := Json.size_lt_of_get? hget

section operators

variable {strict : Bool} {step : Step}

/-- A known operator is the same, and is announced in the same way, whether strict or not. -/
theorem exists_operatorOf_eq {name : Operator.Name}
    (h : Operator.lookup step.operator = some name) :
    ∃ notices, (∀ notice ∈ notices, notice = .deprecated step.operator name.operator.word) ∧
      ∀ strict, operatorOf strict step = ⟨.ok (some name.operator), notices⟩ := by
  simp only [operatorOf, h]
  cases name.deprecated with
  | true => exact ⟨[_], fun _ hmem => List.mem_singleton.mp hmem, fun _ => rfl⟩
  | false => exact ⟨[], fun _ hmem => absurd hmem List.not_mem_nil, fun _ => rfl⟩

theorem operatorOf_strict (h : Operator.lookup step.operator = none) :
    operatorOf true step = Logged.fail (.validation (.unknownOperator step.operator)) := by
  rw [operatorOf, h]
  rfl

theorem operatorOf_lenient (h : Operator.lookup step.operator = none) :
    operatorOf false step = ⟨.ok none, [.unknownOperator step.operator]⟩ := by
  rw [operatorOf, h]
  rfl

end operators

section related

variable {R : ∀ ⦃α : Type⦄, Logged α → Logged α → Prop} (hR : Logged.IsCongruence R)
  {f g : Nested} {config : Json}

include hR

theorem nestedProgram_related (h : ∀ q, Holds config q → R (f q) (g q)) {j : Json}
    (hget : config.get? "steps" = some j) : R (nestedProgram f j) (nestedProgram g j) := by
  cases j with
  | arr items =>
    rw [nestedProgram, nestedProgram]
    cases hsteps : items.mapM fun item => (⟨false, true, []⟩ : Reader).readStep item with
    | error e => exact hR.silent (x := Logged.fail e) rfl
    | ok steps =>
      change R ((Logged.ok steps).bind _) ((Logged.ok steps).bind _)
      rw [Logged.ok_bind, Logged.ok_bind]
      exact h ⟨steps⟩ ⟨items, hget, hsteps⟩
  | _ => exact hR.silent rfl

theorem innerSelection?_related (h : ∀ q, Holds config q → R (f q) (g q)) (args : List Json) :
    R (innerSelection? f config args) (innerSelection? g config args) := by
  rw [innerSelection?, innerSelection?]
  cases hget : config.get? "steps" with
  | none =>
    refine hR.bind (hR.silent rfl) fun names => ?_
    split_ifs
    · exact hR.silent rfl
    · exact hR.silent rfl
  | some j => exact hR.bind (nestedProgram_related hR h hget) fun set => hR.silent rfl

theorem innerSelection_related (h : ∀ q, Holds config q → R (f q) (g q)) (o : Operator) :
    R (innerSelection f o config) (innerSelection g o config) := by
  refine hR.bind (innerSelection?_related hR h _) fun inner => ?_
  cases inner with
  | none => exact hR.silent rfl
  | some inner => exact hR.silent rfl

theorem startSelection_related (h : ∀ q, Holds config q → R (f q) (g q)) (o : Operator) :
    R (startSelection f o config) (startSelection g o config) := by
  cases o with
  | allExcept => exact hR.bind (innerSelection_related hR h _) fun _ => hR.silent rfl
  | within =>
    refine hR.bind (hR.silent rfl) fun group => ?_
    exact hR.bind (innerSelection?_related hR h _) fun _ => hR.silent rfl
  | allColsExcept =>
    refine hR.bind (hR.silent rfl) fun group => ?_
    refine hR.bind (innerSelection?_related hR h _) fun exclusion => ?_
    cases exclusion with
    | none => exact hR.silent rfl
    | some exclusion => exact hR.silent rfl
  | col | cols =>
    refine hR.bind (hR.silent rfl) fun names => ?_
    split_ifs
    · exact hR.silent rfl
    · exact hR.silent rfl
  | colsAt | colsWhere | colsAtAnyDepth | colsOf | colsOfKind =>
    exact hR.bind (hR.silent rfl) fun _ => hR.silent rfl
  | _ => exact hR.silent rfl

theorem refine_related (h : ∀ q, Holds config q → R (f q) (g q)) (o : Operator)
    (set : Selection) : R (refine f o config set) (refine g o config set) := by
  cases o with
  | and | except => exact hR.bind (innerSelection_related hR h _) fun _ => hR.silent rfl
  | nameMatches =>
    refine hR.bind (hR.silent rfl) fun text => ?_
    exact hR.bind (hR.silent rfl) fun _ => hR.silent rfl
  | take | takeLast | drop | dropLast | takeWhile | takeLastWhile | dropWhile | dropLastWhile
  | filter | nameContains | nameStartsWith | nameEndsWith | firstCol | lastCol | singleCol
  | named => exact hR.bind (hR.silent rfl) fun _ => hR.silent rfl
  | _ => exact hR.silent rfl

theorem applyOperator_related (h : ∀ q, Holds config q → R (f q) (g q))
    (current : Option Selection) (o : Operator) :
    R (applyOperator f current o config) (applyOperator g current o config) := by
  unfold applyOperator
  by_cases hsource : o.isSource = true
  · rw [if_pos hsource, if_pos hsource]
    cases current with
    | none => exact startSelection_related hR h o
    | some set =>
      dsimp only
      split_ifs
      · exact hR.bind (hR.silent rfl) fun _ => hR.silent rfl
      · exact hR.silent rfl
  · rw [if_neg hsource, if_neg hsource]
    exact refine_related hR h o _

theorem compileSteps_related {strict strict' : Bool} {steps : List Step}
    (hoperator : ∀ step ∈ steps, R (operatorOf strict step) (operatorOf strict' step))
    (h : ∀ step ∈ steps, ∀ q, Holds step.config q → R (f q) (g q))
    (current : Option Selection) :
    R (compileSteps f strict current steps) (compileSteps g strict' current steps) := by
  induction steps generalizing current with
  | nil => exact hR.silent rfl
  | cons step rest ih =>
    rw [List.forall_mem_cons] at hoperator h
    rw [compileSteps, compileSteps]
    refine hR.bind hoperator.1 fun o => ?_
    cases o with
    | none => exact ih hoperator.2 h.2 current
    | some o =>
      exact hR.bind (applyOperator_related hR h.1 current o) fun set =>
        ih hoperator.2 h.2 (some set)

end related

/-- Compiles the steps of a program, the programs that they hold being compiled as given. -/
def compileLevel (strict : Bool) (nested : Nested) : Nested := fun p => do
  match ← compileSteps nested strict none p.steps with
  | some set => return set
  | none => Logged.fail (.validation .programWithoutOperators)

section levels

variable {strict : Bool} {f g : Nested} {n m : Nat} {p : Program}

/-- Nothing matters for a program but how the programs held by its steps are compiled. -/
theorem compileLevel_congr (h : ∀ step ∈ p.steps, ∀ q, Holds step.config q → f q = g q) :
    compileLevel strict f p = compileLevel strict g p := by
  have hsteps : compileSteps f strict none p.steps = compileSteps g strict none p.steps :=
    compileSteps_related Logged.isCongruence_eq (fun _ _ => rfl) h none
  rw [compileLevel, compileLevel, hsteps]

/-- Above the size of a program the number of levels makes no difference, nor does what is given
for the programs below them. -/
theorem iterate_compileLevel_eq (f g : Nested) (hn : p.size < n) (hm : p.size < m) :
    (compileLevel strict)^[n] f p = (compileLevel strict)^[m] g p := by
  -- A program that is held is smaller, so that one level less is enough for it.
  induction n generalizing m p with
  | zero => cases hn
  | succ n ih =>
    cases m with
    | zero => cases hm
    | succ m =>
      rw [Function.iterate_succ_apply', Function.iterate_succ_apply']
      refine compileLevel_congr fun step hstep q hq => ?_
      have hlt := size_lt_of_holds hq
      have hle := size_config_le hstep
      exact ih (by omega) (by omega)

theorem compileWithin_eq_iterate (strict : Bool) (n : Nat) :
    compileWithin strict n = (compileLevel strict)^[n] (compileWithin strict 0) := by
  induction n with
  | zero => rfl
  | succ n ih =>
    rw [Function.iterate_succ_apply', ← ih]
    rfl

theorem iterate_compileLevel_eq_compile (f : Nested) (h : p.size < n) :
    (compileLevel strict)^[n] f p = compile strict p := by
  rw [compile, compileWithin_eq_iterate]
  exact iterate_compileLevel_eq f _ h (Nat.lt_succ_of_le p.size_le_weight)

end levels

/-- Compiling a program compiles its steps, and the programs that they hold in the same way. -/
theorem compile_eq (strict : Bool) (p : Program) :
    compile strict p =
      (compileSteps (compile strict) strict none p.steps >>= fun
        | some set => return set
        | none => Logged.fail (.validation .programWithoutOperators)) := by
  have hlevel : compile strict p = compileLevel strict (compile strict) p := by
    rw [← iterate_compileLevel_eq_compile (compile strict) (Nat.lt_succ_self p.size),
      Function.iterate_succ_apply']
    refine compileLevel_congr fun step hstep q hq => ?_
    have hlt := size_lt_of_holds hq
    exact iterate_compileLevel_eq_compile _ (hlt.trans_le (size_config_le hstep))
  exact hlevel

/-- A program of one step is what its operator starts, or makes of all columns. -/
theorem compile_singleton {strict : Bool} {step : Step} {o : Operator}
    (h : Operator.lookup step.operator = some ⟨o, false⟩) :
    compile strict ⟨[step]⟩ = applyOperator (compile strict) none o step.config := by
  have hoperator : operatorOf strict step = Logged.ok (some o) := by
    rw [operatorOf, h]
    rfl
  rw [compile_eq, compileSteps, hoperator]
  change ((Logged.ok (some o)).bind fun _ => _) >>= _ = _
  rw [Logged.ok_bind]
  dsimp only
  generalize applyOperator (compile strict) none o step.config = made
  obtain ⟨outcome, notices⟩ := made
  cases outcome with
  | error e => rfl
  | ok set =>
    change (⟨.ok set, (notices ++ []) ++ []⟩ : Logged Selection) = ⟨.ok set, notices⟩
    rw [List.append_nil, List.append_nil]

/-- What relates the two operators of every step relates the two compilations, if it is also so
in the programs held. -/
theorem compile_related {R : ∀ ⦃α : Type⦄, Logged α → Logged α → Prop}
    (hR : Logged.IsCongruence R) (strict strict' : Bool) {P : Program → Prop}
    (hoperator : ∀ p, P p → ∀ step ∈ p.steps, R (operatorOf strict step) (operatorOf strict' step))
    (hheld : ∀ p, P p → ∀ step ∈ p.steps, ∀ q, Holds step.config q → P q) {p : Program}
    (hp : P p) : R (compile strict p) (compile strict' p) := by
  induction hsize : p.size using Nat.strong_induction_on generalizing p with
  | _ n ih =>
    rw [compile_eq, compile_eq]
    refine hR.bind (compileSteps_related hR (hoperator p hp) (fun step hstep q hq => ?_) none)
      fun set => ?_
    · have hlt := size_lt_of_holds hq
      have hle := size_config_le hstep
      exact ih q.size (by omega) (hheld p hp step hstep q hq) rfl
    · cases set with
      | none => exact hR.silent rfl
      | some set => exact hR.silent rfl

/-- The reader without variables in one of its two modes. -/
abbrev Reader.ofMode (strict : Bool) : Reader :=
  ⟨strict, true, []⟩

/-- The warnings of the reader come before the notices of the compilation. -/
theorem compileSource_of_read {strict : Bool} {source : String} {reading : Reading}
    (h : (Reader.ofMode strict).read source = .ok reading) :
    compileSource strict source =
      ⟨(compile strict reading.program).outcome,
        reading.warnings.map .programWarning ++ (compile strict reading.program).notices⟩ := by
  rw [compileSource, h]
  rfl

end Program

end ColumnSelection
