import ColumnSelection.Proofs.NestedLines
import ColumnSelection.Proofs.ValueEquality

/-!
# How deep programs are nested

Compiling a program calls for the compilation of the programs that its steps hold. Whatever is
called for is smaller than the program that calls, also where it was written as lines in which
further lines are quoted. So calls are nested no deeper than the size of the program, and compiling
comes to an end.
-/
namespace ColumnSelection

namespace Program

variable {strict : Bool} {p q : Program}

/-- Compiling the first program calls for the second one: the result can change with what is given
for the second alone. No call goes unseen, since a program fails with any that it calls for. -/
def Calls (strict : Bool) (p q : Program) : Prop :=
  ∃ f g : Nested, (∀ q', q' ≠ q → f q' = g q') ∧ compileLevel strict f p ≠ compileLevel strict g p

/-- Only programs that are held are called for. -/
theorem Calls.exists_holds (h : Calls strict p q) : ∃ step ∈ p.steps, Holds step.config q := by
  obtain ⟨f, g, hsame, hne⟩ := h
  by_contra hnot
  refine hne (compileLevel_congr fun step hstep q' hq' => hsame q' ?_)
  rintro rfl
  exact hnot ⟨step, hstep, hq'⟩

theorem Calls.size_lt (h : Calls strict p q) : q.size < p.size := by
  obtain ⟨step, hstep, hq⟩ := h.exists_holds
  exact (size_lt_of_holds hq).trans_le (size_config_le hstep)

/-- A call takes at least one from the size, so that nested calls use it up. -/
theorem length_le_size_of_isChain {calls : List Program}
    (h : (p :: calls).IsChain (Calls strict)) : calls.length ≤ p.size := by
  induction calls generalizing p with
  | nil => exact Nat.zero_le _
  | cons q calls ih =>
    obtain ⟨hcall, hcalls⟩ := List.isChain_cons_cons.mp h
    have hlength := ih hcalls
    have hsize := hcall.size_lt
    rw [List.length_cons]
    omega

/-- A configuration holds one program at most. -/
theorem Holds.unique {config : Json} {q q' : Program} (h : Holds config q) (h' : Holds config q') :
    q = q' := by
  obtain ⟨items, hget, hsteps⟩ := h
  obtain ⟨items', hget', hsteps'⟩ := h'
  obtain rfl : items = items' := Json.arr.inj (Option.some.inj (hget.symm.trans hget'))
  obtain ⟨steps⟩ := q
  obtain ⟨steps'⟩ := q'
  exact congrArg Program.mk (Except.ok.inj (hsteps.symm.trans hsteps'))

/-- A program holds no more programs than it has steps. -/
theorem exists_held (steps : List Step) :
    ∃ held : List Program, ∀ step ∈ steps, ∀ q, Holds step.config q → q ∈ held := by
  induction steps with
  | nil => exact ⟨[], fun _ h => absurd h List.not_mem_nil⟩
  | cons step rest ih =>
    obtain ⟨held, hheld⟩ := ih
    by_cases h : ∃ q, Holds step.config q
    · obtain ⟨q, hq⟩ := h
      refine ⟨q :: held, List.forall_mem_cons.mpr ⟨fun q' hq' => ?_, fun s hs q' hq' => ?_⟩⟩
      · rw [hq.unique hq']
        exact List.mem_cons_self
      · exact List.mem_cons_of_mem _ (hheld s hs q' hq')
    · exact ⟨held, List.forall_mem_cons.mpr ⟨fun q hq => absurd ⟨q, hq⟩ h, hheld⟩⟩

/-- It makes no difference what is given for a program that is not called for. -/
theorem compileLevel_update (h : ¬ Calls strict p q) (f : Nested) (made : Logged Selection) :
    compileLevel strict (Function.update f q made) p = compileLevel strict f p := by
  by_contra hne
  exact h ⟨f, Function.update f q made, fun q' hq' => (Function.update_of_ne hq' _ _).symm,
    Ne.symm hne⟩

/-- The programs called for are all that matters. -/
theorem compileLevel_eq_of_calls {f g : Nested} (h : ∀ q, Calls strict p q → f q = g q) :
    compileLevel strict f p = compileLevel strict g p := by
  obtain ⟨held, hheld⟩ := exists_held p.steps
  -- From one to the other the programs that are held, which are finitely many, are gone through.
  suffices hleft : ∀ (left : List Program) (f : Nested), (∀ q, Calls strict p q → f q = g q) →
      (∀ q ∈ held, q ∉ left → f q = g q) →
        compileLevel strict f p = compileLevel strict g p from
    hleft held f h fun q hq hnot => absurd hq hnot
  intro left
  induction left with
  | nil =>
    intro f _ hsame
    exact compileLevel_congr fun step hstep q hq =>
      hsame q (hheld step hstep q hq) List.not_mem_nil
  | cons q left ih =>
    intro f hcalls hsame
    have hupdate : compileLevel strict (Function.update f q (g q)) p = compileLevel strict f p := by
      by_cases hcall : Calls strict p q
      · rw [← hcalls q hcall, Function.update_eq_self]
      · exact compileLevel_update hcall f (g q)
    have hgiven : ∀ q', (q' ≠ q → f q' = g q') → Function.update f q (g q) q' = g q' := by
      intro q' hq'
      by_cases heq : q' = q
      · rw [heq, Function.update_self]
      · rw [Function.update_of_ne heq]
        exact hq' heq
    rw [← hupdate]
    refine ih _ (fun q' hq' => hgiven q' fun _ => hcalls q' hq') fun q' hq' hnot => ?_
    refine hgiven q' fun hne => hsame q' hq' ?_
    rw [List.mem_cons, not_or]
    exact ⟨hne, hnot⟩

section nesting

variable {config : Json} {f : Nested} {e : Failure}

theorem outcome_innerSelection?_of_holds (h : Holds config q) (hf : (f q).outcome = .error e)
    (args : List Json) : (innerSelection? f config args).outcome = .error e := by
  obtain ⟨items, hget, hsteps⟩ := h
  rw [innerSelection?, hget]
  refine Logged.outcome_bind_of_error ?_
  rw [nestedProgram, hsteps]
  change ((Logged.ok q.steps).bind _).outcome = _
  rwa [Logged.ok_bind]

/-- An operator that takes a selection from its configuration fails with the program held there. -/
theorem outcome_applyOperator_of_holds {o : Operator} (ho : o ∈ nestingOperators)
    (hgroup : o ∈ [Operator.within, .allColsExcept] → ∃ group, groupArgument o config = .ok group)
    (h : Holds config q) (hf : (f q).outcome = .error e) :
    (applyOperator f none o config).outcome = .error e := by
  have hinner? := outcome_innerSelection?_of_holds h hf
  have hinner : (innerSelection f o config).outcome = .error e :=
    Logged.outcome_bind_of_error (hinner? _)
  simp only [nestingOperators, List.mem_cons, List.not_mem_nil, or_false] at ho
  rcases ho with rfl | rfl | rfl | rfl | rfl
  · exact Logged.outcome_bind_of_error hinner
  · exact Logged.outcome_bind_of_error hinner
  · exact Logged.outcome_bind_of_error hinner
  all_goals
    obtain ⟨group, hgroup⟩ := hgroup (by decide)
    rw [applyOperator, if_pos (by decide)]
    rw [startSelection, hgroup]
    change ((Logged.ok group).bind _).outcome = _
    rw [Logged.ok_bind]
    exact Logged.outcome_bind_of_error (hinner? _)

/-- A program whose first step takes steps from its configuration calls for the program that these
make. -/
theorem calls_of_holds {operator : String} {name : Operator.Name}
    (hlookup : Operator.lookup operator = some name) (ho : name.operator ∈ nestingOperators)
    (hgroup : name.operator ∈ [Operator.within, .allColsExcept] →
      ∃ group, groupArgument name.operator config = .ok group)
    (h : Holds config q) (strict : Bool) (rest : List Step) :
    Calls strict ⟨⟨operator, config⟩ :: rest⟩ q := by
  have hfails : ∀ (f : Nested) e, (f q).outcome = .error e →
      (compileLevel strict f ⟨⟨operator, config⟩ :: rest⟩).outcome = .error e := by
    intro f e hf
    have hstep : Operator.lookup (Step.mk operator config).operator = some name := hlookup
    obtain ⟨notices, -, hoperator⟩ := exists_operatorOf_eq hstep
    refine Logged.outcome_bind_of_error ?_
    rw [compileSteps, hoperator]
    exact Logged.outcome_bind_of_error (x := applyOperator f none name.operator config)
      (outcome_applyOperator_of_holds ho hgroup h hf)
  -- Two ways to fail with the program that is held, and with no other, can be told apart.
  let f : Nested := fun _ => Logged.fail (.internal "")
  let g : Nested := Function.update f q (Logged.fail (.validation .emptyLine))
  have hg : g q = Logged.fail (.validation .emptyLine) := Function.update_self q _ f
  refine ⟨f, g, fun q' hne => (Function.update_of_ne hne _ _).symm, fun heq => ?_⟩
  have hinternal := hfails f (.internal "") rfl
  rw [heq, hfails g _ (congrArg Logged.outcome hg)] at hinternal
  cases hinternal

end nesting

/-- Calls are nested no deeper than the number of values and of characters in strings that the
configurations of a program have, and what it compiles to depends on the programs called for alone.
So compiling comes to an end: that many levels of calls give the result, whatever is put in the
place of the levels below. -/
theorem compile_depth_le_size (strict : Bool) (p : Program) :
    (∀ calls, (p :: calls).IsChain (Calls strict) → calls.length ≤ p.size) ∧
      (∀ f : Nested, (∀ q, Calls strict p q → f q = compile strict q) →
        compileLevel strict f p = compile strict p) ∧
      ∀ depth, p.size ≤ depth → ∀ beyond : Nested,
        (compileLevel strict)^[depth + 1] beyond p = compile strict p := by
  refine ⟨fun calls h => length_le_size_of_isChain h, fun f h => ?_, fun depth h beyond => ?_⟩
  · rw [compileLevel_eq_of_calls h]
    exact (compile_eq strict p).symm
  · exact iterate_compileLevel_eq_compile beyond (Nat.lt_succ_of_le h)

/-- A step holds a line as text, which quotes a second line, which quotes a third. -/
theorem compile_depth_le_size_quoted :
    let excepting : String → Program := fun line =>
      ⟨[⟨"except", .obj [("steps", .arr [.str line])]⟩]⟩
    let third := "all"
    let second := "except \x7b\"steps\":[\"all\"]\x7d"
    let first := "in \x7b\"group\":\"g\",\"steps\":[" ++
      "\"except \x7b\\\"steps\\\":[\\\"all\\\"]\x7d\"]\x7d"
    let within : Program := ⟨[⟨"in", .obj [("group", .str "g"), ("steps", .arr [.str second])]⟩]⟩
    let calls : List Program := [within, excepting third, ⟨[⟨"all", .obj []⟩]⟩]
    (excepting first :: calls).IsChain (Calls true) ∧ (excepting first).size = 60 ∧
      3 ≤ (excepting first).size := by
  intro excepting third second first within calls
  have hexcept : Operator.lookup "except" = some ⟨.except, false⟩ := by decide
  have hwithin : Operator.lookup "in" = some ⟨.within, false⟩ := by decide
  have hfirst : Calls true (excepting first) within :=
    calls_of_holds hexcept (by decide) (fun h => absurd h (by decide))
      ⟨[.str first], rfl, by decide +kernel⟩ true []
  have hsecond : Calls true within (excepting third) :=
    calls_of_holds hwithin (by decide) (fun _ => ⟨("g", []), rfl⟩)
      ⟨[.str second], rfl, by decide +kernel⟩ true []
  have hthird : Calls true (excepting third) ⟨[⟨"all", .obj []⟩]⟩ :=
    calls_of_holds hexcept (by decide) (fun h => absurd h (by decide))
      ⟨[.str third], rfl, by decide +kernel⟩ true []
  have hchain : (excepting first :: calls).IsChain (Calls true) :=
    .cons_cons hfirst (.cons_cons hsecond (.cons_cons hthird (.singleton _)))
  exact ⟨hchain, by decide +kernel, (compile_depth_le_size true (excepting first)).1 calls hchain⟩

end Program

end ColumnSelection
