import ColumnSelection.Proofs.Compiling
import ColumnSelection.Selection.Resolve

/-!
# A program behind `all`

A refinement without a selection before it refines all columns, so that `all` in front of it
changes nothing. A source that acts as a filter starts the columns that satisfy its predicate, and
behind `all` it filters them out of all columns: the expressions differ, and so does every
expression made of them, but they resolve to the same columns. Any other source is refused.
-/
namespace ColumnSelection

namespace Logged

variable {α β γ δ : Type} {R : α → β → Prop} {x : Logged α} {y : Logged β}

/-- Both fail alike or have related results, with the same notices. -/
inductive Matches (R : α → β → Prop) : Logged α → Logged β → Prop where
  | error (e : Failure) (notices : List Notice) : Matches R ⟨.error e, notices⟩ ⟨.error e, notices⟩
  | ok {a : α} {b : β} (h : R a b) (notices : List Notice) :
      Matches R ⟨.ok a, notices⟩ ⟨.ok b, notices⟩

theorem matches_refl {R : α → α → Prop} (hR : ∀ a, R a a) (x : Logged α) : x.Matches R x := by
  obtain ⟨outcome, notices⟩ := x
  cases outcome with
  | error e => exact .error e notices
  | ok a => exact .ok (hR a) notices

theorem Matches.bind {S : γ → δ → Prop} {f : α → Logged γ} {g : β → Logged δ}
    (h : x.Matches R y) (hfg : ∀ a b, R a b → (f a).Matches S (g b)) :
    (x >>= f).Matches S (y >>= g) := by
  cases h with
  | error e notices => exact .error e notices
  | @ok a b hab notices =>
    have hrest := hfg a b hab
    change Matches S ⟨(f a).outcome, notices ++ (f a).notices⟩
      ⟨(g b).outcome, notices ++ (g b).notices⟩
    generalize f a = u at hrest
    generalize g b = v at hrest
    cases hrest with
    | error e more => exact .error e (notices ++ more)
    | ok h more => exact .ok h (notices ++ more)

theorem Matches.eq {x y : Logged α} (h : x.Matches Eq y) : x = y := by
  cases h with
  | error e notices => rfl
  | ok hab notices => rw [hab]

/-- Work that both begin with can be left out of the comparison. -/
theorem matches_bind {S : γ → δ → Prop} {f : α → Logged γ} {g : α → Logged δ} (x : Logged α)
    (h : ∀ a, (f a).Matches S (g a)) : (x >>= f).Matches S (x >>= g) := by
  refine (matches_refl (R := Eq) (fun _ => rfl) x).bind fun a b hab => ?_
  rw [← hab]
  exact h a

theorem Matches.mono {S : α → β → Prop} (h : x.Matches R y) (hRS : ∀ a b, R a b → S a b) :
    x.Matches S y := by
  cases h with
  | error e notices => exact .error e notices
  | ok hab notices => exact .ok (hRS _ _ hab) notices

end Logged

namespace Selection

/-- Two selections that stand for the same columns in every scope. -/
def Agree (a b : Selection) : Prop :=
  ∀ s : Scope, a.resolve s = b.resolve s

/-- Two selections that stand for the same columns in every tree and under all settings. -/
def SelectAlike (a b : Selection) : Prop :=
  ∀ (t : Tree) (settings : Settings), t.select a settings = t.select b settings

variable {a b : Selection}

theorem Agree.selectAlike (h : a.Agree b) : a.SelectAlike b :=
  fun t settings => h { tree := t, settings := settings }

theorem Agree.and (h : a.Agree b) (right : Selection) :
    (Selection.and a right).Agree (.and b right) := by
  intro s
  rw [resolve, resolve, h s]

theorem Agree.except (h : a.Agree b) (exclusion : Selection) :
    (Selection.except a exclusion).Agree (.except b exclusion) := by
  intro s
  rw [resolve, resolve, h s]

theorem Agree.slice (h : a.Agree b) (part : Slice) :
    (Selection.slice a part).Agree (.slice b part) := by
  intro s
  rw [resolve, resolve, h s]

theorem Agree.filter (h : a.Agree b) (p : Predicate) :
    (Selection.filter a p).Agree (.filter b p) := by
  intro s
  rw [resolve, resolve, h s]

theorem Agree.distinct (h : a.Agree b) : (Selection.distinct a).Agree (.distinct b) := by
  intro s
  rw [resolve, resolve, h s]

theorem Agree.simplify (h : a.Agree b) : (Selection.simplify a).Agree (.simplify b) := by
  intro s
  rw [resolve, resolve, h s]

theorem Agree.groupChildren (h : a.Agree b) :
    (Selection.groupChildren a).Agree (.groupChildren b) := by
  intro s
  rw [resolve, resolve, h s]

theorem Agree.pick (h : a.Agree b) (choice : Choice) (p : Option Predicate) :
    (Selection.pick a choice p).Agree (.pick b choice p) := by
  intro s
  rw [resolve, resolve, h s]

theorem Agree.named (h : a.Agree b) (shown : String) :
    (Selection.named a shown).Agree (.named b shown) := by
  intro s
  rw [resolve, resolve, h s]

/-- The columns that satisfy a predicate are the filtered columns of the scope. -/
theorem agree_filter_all (p : Predicate) : (Selection.satisfying p).Agree (.filter .all p) := by
  intro s
  rw [resolve, resolve, resolve]
  exact (Logged.ok_bind _ _).symm

end Selection

namespace Program

open Selection Logged

section selections

variable {nested : Nested} {o : Operator} {config : Json} {a b : Selection}

/-- What a refinement makes of two selections that agree agrees again. -/
theorem refine_matches (h : a.Agree b) :
    (refine nested o config a).Matches Agree (refine nested o config b) := by
  have hmade : ∀ {γ : Type} (x : Logged γ) (f g : γ → Selection), (∀ c, (f c).Agree (g c)) →
      (x >>= fun c => pure (f c)).Matches Agree (x >>= fun c => pure (g c)) :=
    fun x f g hfg => matches_bind x fun c => .ok (hfg c) []
  cases o with
  | and => exact hmade _ _ _ h.and
  | except => exact hmade _ _ _ h.except
  | take | takeLast | drop | dropLast => exact hmade _ _ _ fun n => h.slice _
  | takeWhile | takeLastWhile | dropWhile | dropLastWhile => exact hmade _ _ _ fun p => h.slice _
  | filter => exact hmade _ _ _ h.filter
  | distinct => exact .ok h.distinct []
  | simplify => exact .ok h.simplify []
  | nameContains | nameStartsWith | nameEndsWith => exact hmade _ _ _ fun text => h.filter _
  | nameMatches => exact matches_bind _ fun text => hmade _ _ _ h.filter
  | colsInGroups => exact .ok h.groupChildren []
  | firstCol | lastCol | singleCol => exact hmade _ _ _ (h.pick _)
  | named => exact hmade _ _ _ h.named
  | _ => exact .error _ []

theorem applyOperator_matches (h : a.Agree b) :
    (applyOperator nested (some a) o config).Matches Agree
      (applyOperator nested (some b) o config) := by
  unfold applyOperator
  by_cases hsource : o.isSource = true
  · rw [if_pos hsource, if_pos hsource]
    dsimp only
    split_ifs
    · exact matches_bind _ fun p => .ok (h.filter p) []
    · exact .error _ []
  · rw [if_neg hsource, if_neg hsource]
    exact refine_matches h

theorem compileSteps_matches {strict : Bool} {steps : List Step} (h : a.Agree b) :
    (compileSteps nested strict (some a) steps).Matches (Option.Rel Agree)
      (compileSteps nested strict (some b) steps) := by
  induction steps generalizing a b with
  | nil => exact .ok (.some h) []
  | cons step rest ih =>
    rw [compileSteps, compileSteps]
    refine matches_bind _ fun o => ?_
    cases o with
    | none => exact ih h
    | some o => exact (applyOperator_matches h).bind fun a' b' h' => ih h'

/-- A source that acts as a filter starts what it makes of all columns. -/
theorem startSelection_matches (hfilter : o.isFilteringSource = true) :
    (startSelection nested o config).Matches Agree
      (applyOperator nested (some .all) o config) := by
  have hpredicate : ∀ x : Except Failure Predicate,
      (ofExcept x >>= fun p => pure (Selection.satisfying p)).Matches Agree
        (ofExcept x >>= fun p => pure (.filter .all p)) :=
    fun x => matches_bind _ fun p => .ok (agree_filter_all p) []
  have hread : ∀ {γ : Type} (x : Except Failure γ) (f : γ → Predicate),
      (ofExcept x >>= fun c => pure (Selection.satisfying (f c))).Matches Agree
        (ofExcept (x >>= fun c => pure (f c)) >>= fun p => pure (.filter .all p)) := by
    intro γ x f
    cases x with
    | error e => exact .error e []
    | ok c => exact .ok (agree_filter_all (f c)) []
  cases o with
  | colsWhere => exact hpredicate _
  | colsOf => exact hread _ _
  | colsOfKind => exact hread _ _
  | _ => exact absurd hfilter (by decide)

end selections

section steps

variable {nested : Nested} {strict : Bool} {front rest : List Step}

/-- Steps with unknown operators make no difference between two selections built so far. -/
theorem compileSteps_unknown_matches {R : Option Selection → Option Selection → Prop}
    (hfront : ∀ s ∈ front, Operator.lookup s.operator = none) {current current' : Option Selection}
    (h : (compileSteps nested strict current rest).Matches R
      (compileSteps nested strict current' rest)) :
    (compileSteps nested strict current (front ++ rest)).Matches R
      (compileSteps nested strict current' (front ++ rest)) := by
  induction front with
  | nil => exact h
  | cons step more ih =>
    rw [List.forall_mem_cons] at hfront
    rw [List.cons_append, compileSteps, compileSteps]
    cases strict with
    | true =>
      rw [operatorOf_strict hfront.1]
      exact .error _ []
    | false =>
      rw [operatorOf_lenient hfront.1]
      refine (Matches.ok (R := fun o o' => o = none ∧ o' = none) ⟨rfl, rfl⟩ _).bind ?_
      rintro _ _ ⟨rfl, rfl⟩
      exact ih hfront.2

variable {step : Step} {name : Operator.Name}
  (hfront : ∀ s ∈ front, Operator.lookup s.operator = none)
  (hstep : Operator.lookup step.operator = some name)

include hfront hstep

theorem compileSteps_known_matches {R : Option Selection → Option Selection → Prop}
    {current current' : Option Selection}
    (h : (applyOperator nested current name.operator step.config).Matches
      (fun a b => (compileSteps nested strict (some a) rest).Matches R
        (compileSteps nested strict (some b) rest))
      (applyOperator nested current' name.operator step.config)) :
    (compileSteps nested strict current (front ++ step :: rest)).Matches R
      (compileSteps nested strict current' (front ++ step :: rest)) := by
  refine compileSteps_unknown_matches hfront ?_
  obtain ⟨notices, -, hoperator⟩ := exists_operatorOf_eq hstep
  rw [compileSteps, compileSteps, hoperator]
  refine (Matches.ok (R := fun o o' => o = some name.operator ∧ o' = some name.operator)
    ⟨rfl, rfl⟩ _).bind ?_
  rintro _ _ ⟨rfl, rfl⟩
  exact h.bind fun a b hab => hab

/-- Behind a selection a source that is no filter is refused, unless an unknown operator was refused
before it. -/
theorem compileSteps_misplaced (hsource : name.operator.isSource = true)
    (hfilter : name.operator.isFilteringSource = false) (set : Selection) :
    ∃ fault, (compileSteps nested strict (some set) (front ++ step :: rest)).outcome =
        .error (.validation fault) ∧
      (strict = false ∨ front = [] → fault = .misplacedSource name.operator.word) := by
  induction front with
  | nil =>
    obtain ⟨notices, -, hoperator⟩ := exists_operatorOf_eq hstep
    refine ⟨.misplacedSource name.operator.word, ?_, fun _ => rfl⟩
    rw [List.nil_append, compileSteps, hoperator]
    change (applyOperator nested (some set) name.operator step.config >>= _).outcome = _
    unfold applyOperator
    rw [if_pos hsource]
    simp only [hfilter]
    rfl
  | cons s more ih =>
    rw [List.forall_mem_cons] at hfront
    rw [List.cons_append, compileSteps]
    cases strict with
    | true =>
      rw [operatorOf_strict hfront.1]
      exact ⟨.unknownOperator s.operator, rfl, by simp⟩
    | false =>
      rw [operatorOf_lenient hfront.1]
      obtain ⟨fault, houtcome, hfault⟩ := ih hfront.2
      exact ⟨fault, houtcome, fun _ => hfault (.inl rfl)⟩

end steps

/-- The program with an `all` step in front of it. -/
def behindAll (config : Json) (p : Program) : Program :=
  ⟨⟨"all", config⟩ :: p.steps⟩

theorem compileSteps_behindAll (nested : Nested) (strict : Bool) (config : Json) (p : Program) :
    compileSteps nested strict none (p.behindAll config).steps =
      compileSteps nested strict (some .all) p.steps := by
  have hall : Operator.lookup "all" = some ⟨.all, false⟩ := by decide
  have hoperator : operatorOf strict ⟨"all", config⟩ = Logged.ok (some .all) := by
    rw [operatorOf, hall]
    rfl
  rw [behindAll, compileSteps, hoperator]
  change (Logged.ok (some Operator.all)).bind _ = _
  rw [Logged.ok_bind]
  change (Logged.ok Selection.all).bind _ = _
  rw [Logged.ok_bind]

section programs

variable {strict : Bool} {p : Program} {front rest : List Step} {step : Step}
  {name : Operator.Name} (hp : p.steps = front ++ step :: rest)
  (hfront : ∀ s ∈ front, Operator.lookup s.operator = none)
  (hstep : Operator.lookup step.operator = some name)

include hp hfront hstep

theorem compile_behindAll_of_refinement (hsource : name.operator.isSource = false)
    (config : Json) : compile strict (p.behindAll config) = compile strict p := by
  have hsame : applyOperator (compile strict) none name.operator step.config =
      applyOperator (compile strict) (some .all) name.operator step.config := by
    unfold applyOperator
    simp only [hsource]
    rfl
  have hsteps : compileSteps (compile strict) strict none p.steps =
      compileSteps (compile strict) strict (some .all) p.steps := by
    rw [hp]
    refine Matches.eq (compileSteps_known_matches hfront hstep ?_)
    rw [hsame]
    refine matches_refl (fun set => ?_) _
    exact matches_refl (fun _ => rfl) _
  rw [compile_eq, compile_eq, compileSteps_behindAll, hsteps]

theorem compile_behindAll_of_filter (hfilter : name.operator.isFilteringSource = true)
    (config : Json) : (compile strict p).Matches Agree (compile strict (p.behindAll config)) := by
  have hsource : name.operator.isSource = true := by
    generalize name.operator = o at hfilter
    cases o <;> first | rfl | cases hfilter
  have hstart : applyOperator (compile strict) none name.operator step.config =
      startSelection (compile strict) name.operator step.config := by
    unfold applyOperator
    rw [if_pos hsource]
  rw [compile_eq, compile_eq, compileSteps_behindAll, hp]
  refine (compileSteps_known_matches (R := Option.Rel Agree) hfront hstep ?_).bind ?_
  · rw [hstart]
    exact (startSelection_matches hfilter).mono fun a b hab => compileSteps_matches hab
  · rintro _ _ (hab | _)
    · exact .ok hab []
    · exact .error _ []

theorem compile_behindAll_of_other (hsource : name.operator.isSource = true)
    (hfilter : name.operator.isFilteringSource = false) (config : Json) :
    ∃ fault, (compile strict (p.behindAll config)).outcome = .error (.validation fault) ∧
      (strict = false ∨ front = [] → fault = .misplacedSource name.operator.word) := by
  obtain ⟨fault, houtcome, hfault⟩ := compileSteps_misplaced
    hfront hstep hsource hfilter .all
  refine ⟨fault, ?_, hfault⟩
  rw [compile_eq, compileSteps_behindAll, hp]
  exact outcome_bind_of_error houtcome

/-- With `all` in front nothing changes if the first known operator is a refinement, the columns
stay the same if it is a source that acts as a filter, and any other source is refused. -/
theorem compile_behindAll (strict : Bool) (config : Json) :
    (name.operator.isSource = false →
      compile strict (p.behindAll config) = compile strict p) ∧
    (name.operator.isFilteringSource = true →
      (compile strict p).Matches SelectAlike (compile strict (p.behindAll config))) ∧
    (name.operator.isSource = true → name.operator.isFilteringSource = false →
      ∃ fault, (compile strict (p.behindAll config)).outcome = .error (.validation fault) ∧
        (strict = false ∨ front = [] → fault = .misplacedSource name.operator.word)) := by
  refine ⟨fun hsource => ?_, fun hfilter => ?_, fun hsource hfilter => ?_⟩
  · exact compile_behindAll_of_refinement hp hfront hstep hsource config
  · exact (compile_behindAll_of_filter hp hfront hstep hfilter config).mono
      fun a b hab => hab.selectAlike
  · exact compile_behindAll_of_other hp hfront hstep hsource hfilter config

end programs

theorem compile_behindAll_unknown_first :
    let unknown : Step := ⟨"nowhere", .null⟩
    let refined : Program := ⟨[unknown, ⟨"take", .int 1⟩]⟩
    let filtered : Program := ⟨[unknown, ⟨"cols_of", .str "int"⟩, ⟨"distinct", .null⟩]⟩
    let started : Program := ⟨[unknown, ⟨"col", .str "id"⟩]⟩
    compile false (refined.behindAll .null) = compile false refined ∧
      (compile false filtered).Matches SelectAlike (compile false (filtered.behindAll .null)) ∧
      (compile false (started.behindAll .null)).outcome =
        .error (.validation (.misplacedSource "col")) := by
  intro unknown refined filtered started
  have hfront : ∀ s ∈ [unknown], Operator.lookup s.operator = none :=
    List.forall_mem_singleton.mpr (by decide)
  have hrefined : refined.steps = [unknown] ++ ⟨"take", .int 1⟩ :: [] := rfl
  have htake : Operator.lookup "take" = some ⟨.take, false⟩ := by decide
  have hfiltered : filtered.steps =
      [unknown] ++ ⟨"cols_of", .str "int"⟩ :: [⟨"distinct", .null⟩] := rfl
  have hcolsOf : Operator.lookup "cols_of" = some ⟨.colsOf, false⟩ := by decide
  have hstarted : started.steps = [unknown] ++ ⟨"col", .str "id"⟩ :: [] := rfl
  have hcol : Operator.lookup "col" = some ⟨.col, false⟩ := by decide
  refine ⟨?_, ?_, ?_⟩
  · exact (compile_behindAll hrefined hfront htake false .null).1 rfl
  · exact (compile_behindAll hfiltered hfront hcolsOf false .null).2.1 rfl
  · obtain ⟨fault, houtcome, hfault⟩ :=
      (compile_behindAll hstarted hfront hcol false .null).2.2 rfl rfl
    rw [houtcome, hfault (.inl rfl)]
    rfl

end Program

end ColumnSelection
