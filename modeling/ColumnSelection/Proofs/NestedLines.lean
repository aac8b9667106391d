import ColumnSelection.Proofs.Compiling

/-!
# Lines among the steps of a step

Steps that another step holds are read twice: as part of the configuration around them, where
variables are put in, and then, without variables, when that configuration is compiled. At the first
reading a line is one text, whose words are told apart at the second one only. Variables do not
reach them: a line stands for the object whose configuration the variables turn into the one that
the line spells by itself.
-/
namespace ColumnSelection

/-- Behind a success only what its result leads to matters. -/
theorem Logged.ok_bind_congr {α β : Type} {a : α} {notices : List Notice} {f g : α → Logged β}
    (h : f a = g a) : ((⟨.ok a, notices⟩ : Logged α) >>= f) = ⟨.ok a, notices⟩ >>= g := by
  change (⟨(f a).outcome, notices ++ (f a).notices⟩ : Logged β) =
    ⟨(g a).outcome, notices ++ (g a).notices⟩
  rw [h]

namespace Program

open Reader

/-- The steps that another step holds are read without variables. -/
abbrev heldReader : Reader :=
  ⟨false, true, []⟩

/-- What a line spells where no variables are bound. -/
def LineSpells (line : String) (step : Step) : Prop :=
  heldReader.readStepLine [] (Text.trim line) = .ok step

/-- The operators that may hold steps. -/
def nestingOperators : List Operator :=
  [.and, .except, .allExcept, .within, .allColsExcept]

/-- A configuration that holds these steps. -/
def holding (front back : List (String × Json)) (items : List Json) : Json :=
  .obj (front ++ ("steps", .arr items) :: back)

/-- The second step is the first with one line written out: the line itself, or one among the steps
held at any depth, is replaced by the object of its operator and a configuration that the variables
turn into that of the line. -/
inductive WritesOut (bindings : Bindings) : Json → Json → Prop
  | line {line : String} {step : Step} {config : Json} (hspells : LineSpells line step)
      (hoperator : variableUse step.operator = .none)
      (hconfig : substitute bindings config = .ok step.config) :
      WritesOut bindings (.str line) (Step.toJson ⟨step.operator, config⟩)
  | held {operator : String} {name : Operator.Name} {front back : List (String × Json)}
      {before after : List Json} {j j' : Json} (hlookup : Operator.lookup operator = some name)
      (hnesting : name.operator ∈ nestingOperators) (hoperator : variableUse operator = .none)
      (hfront : "steps" ∉ front.map Prod.fst) (h : WritesOut bindings j j') :
      WritesOut bindings (Step.toJson ⟨operator, holding front back (before ++ j :: after)⟩)
        (Step.toJson ⟨operator, holding front back (before ++ j' :: after)⟩)

section substitute

variable {bindings : Bindings}

/-- A line whose operator refers to no variable refers to none as a whole. -/
theorem LineSpells.variableUse_eq_none {line : String} {step : Step} (h : LineSpells line step)
    (hoperator : variableUse step.operator = .none) : variableUse line = .none := by
  obtain ⟨-, config, -, config', -, hstep⟩ := readStepLine_eq_ok_iff.mp h
  rw [hstep, variableUse_eq_none_iff] at hoperator
  rw [variableUse_eq_none_iff]
  intro hdollar
  obtain ⟨rest, hline⟩ : ∃ rest, line.toList = '$' :: rest := by
    cases hs : line.toList with
    | nil =>
      rw [hs] at hdollar
      cases hdollar
    | cons c rest =>
      rw [hs] at hdollar
      cases hdollar
      exact ⟨rest, rfl⟩
  have hblank : Text.isBlank '$' = false := by decide
  obtain ⟨more, hmore⟩ := Text.exists_trimBy_cons hblank rest
  refine hoperator ?_
  rw [String.toList_ofList, Text.toList_trim, hline, hmore,
    List.takeWhile_cons_of_pos (by simp [hblank])]
  rfl

theorem LineSpells.substitute_config {line : String} {step : Step} (h : LineSpells line step) :
    substitute [] step.config = .ok step.config := by
  obtain ⟨-, config, -, config', hsettle, rfl⟩ := readStepLine_eq_ok_iff.mp h
  have hsub : substitute [] config = .ok config' := hsettle
  obtain ⟨rfl, hfree⟩ := substitute_nil.mp hsub
  exact hsub

theorem substitute_toJson {operator : String} (hoperator : variableUse operator = .none)
    (config : Json) : substitute bindings (Step.toJson ⟨operator, config⟩) = do
      return Step.toJson ⟨operator, ← substitute bindings config⟩ := by
  simp only [Step.toJson, substitute, substituteFields, substituteText, hoperator]
  cases substitute bindings config <;> rfl

variable {R : Json → Json → Prop} {j j' : Json}

theorem corresponds_substituteItems
    (h : Corresponds R (substitute bindings j) (substitute bindings j'))
    (before after : List Json) :
    Corresponds (fun items items' => ∃ before after k k', items = before ++ k :: after ∧
        items' = before ++ k' :: after ∧ R k k')
      (substituteItems bindings (before ++ j :: after))
      (substituteItems bindings (before ++ j' :: after)) := by
  induction before with
  | nil =>
    refine h.bind fun k k' hk => .after _ fun rest => .ok ?_
    exact ⟨[], rest, k, k', rfl, rfl, hk⟩
  | cons first before ih =>
    refine .after _ fun item => ih.bind ?_
    rintro _ _ ⟨before, after, k, k', rfl, rfl, hk⟩
    exact .ok ⟨item :: before, after, k, k', rfl, rfl, hk⟩

theorem corresponds_substituteFields {key : String} {front : List (String × Json)}
    (h : Corresponds R (substitute bindings j) (substitute bindings j'))
    (hfront : key ∉ front.map Prod.fst) (back : List (String × Json)) :
    Corresponds (fun fields fields' => ∃ front back k k', key ∉ front.map Prod.fst ∧
        fields = front ++ (key, k) :: back ∧ fields' = front ++ (key, k') :: back ∧ R k k')
      (substituteFields bindings (front ++ (key, j) :: back))
      (substituteFields bindings (front ++ (key, j') :: back)) := by
  induction front with
  | nil =>
    refine h.bind fun k k' hk => .after _ fun rest => .ok ?_
    exact ⟨[], rest, k, k', hfront, rfl, rfl, hk⟩
  | cons first front ih =>
    obtain ⟨name, value⟩ := first
    rw [List.map_cons, List.mem_cons, not_or] at hfront
    refine .after _ fun item => (ih hfront.2).bind ?_
    rintro _ _ ⟨front, back, k, k', hkey, rfl, rfl, hk⟩
    refine .ok ⟨(name, item) :: front, back, k, k', ?_, rfl, rfl, hk⟩
    rw [List.map_cons, List.mem_cons, not_or]
    exact ⟨hfront.1, hkey⟩

/-- A configuration that holds a line among its steps, and the one with that line written out. -/
inductive HoldsWrittenOut (bindings : Bindings) : Json → Json → Prop
  | holding {front back : List (String × Json)} {before after : List Json} {j j' : Json}
      (hfront : "steps" ∉ front.map Prod.fst) (h : WritesOut bindings j j') :
      HoldsWrittenOut bindings (holding front back (before ++ j :: after))
        (holding front back (before ++ j' :: after))

theorem corresponds_holding {front : List (String × Json)}
    (h : Corresponds (WritesOut []) (substitute bindings j) (substitute bindings j'))
    (hfront : "steps" ∉ front.map Prod.fst) (back : List (String × Json))
    (before after : List Json) :
    Corresponds (HoldsWrittenOut [])
      (substitute bindings (holding front back (before ++ j :: after)))
      (substitute bindings (holding front back (before ++ j' :: after))) := by
  have hitems : Corresponds (fun k k' => ∃ before after l l', k = .arr (before ++ l :: after) ∧
      k' = .arr (before ++ l' :: after) ∧ WritesOut [] l l')
      (substitute bindings (.arr (before ++ j :: after)))
      (substitute bindings (.arr (before ++ j' :: after))) := by
    refine (corresponds_substituteItems h before after).bind ?_
    rintro _ _ ⟨before, after, l, l', rfl, rfl, hl⟩
    exact .ok ⟨before, after, l, l', rfl, rfl, hl⟩
  refine (corresponds_substituteFields hitems hfront back).bind ?_
  rintro _ _ ⟨front, back, _, _, hfront, rfl, rfl, before, after, l, l', rfl, rfl, hl⟩
  exact .ok (.holding hfront hl)

/-- What is left of a line and its object when the variables are put in differs by a line written
out still. -/
theorem WritesOut.corresponds_substitute (h : WritesOut bindings j j') :
    Corresponds (WritesOut []) (substitute bindings j) (substitute bindings j') := by
  induction h with
  | line hspells hoperator hconfig =>
    rw [substitute, substituteText, hspells.variableUse_eq_none hoperator,
      substitute_toJson hoperator, hconfig]
    exact .ok (.line hspells hoperator hspells.substitute_config)
  | held hlookup hnesting hoperator hfront h ih =>
    rw [substitute_toJson hoperator, substitute_toJson hoperator]
    refine (corresponds_holding ih hfront _ _ _).bind ?_
    rintro _ _ ⟨hfront, h⟩
    exact .ok (.held hlookup hnesting hoperator hfront h)

end substitute

section interchangeable

/-- Steps of one operator that make the same of whatever is built before them. -/
structure Interchangeable (strict : Bool) (s s' : Step) : Prop where
  operator : s'.operator = s.operator
  apply : ∀ name, Operator.lookup s.operator = some name → ∀ current,
    applyOperator (compile strict) current name.operator s.config =
      applyOperator (compile strict) current name.operator s'.config

variable {strict : Bool}

theorem Interchangeable.refl (s : Step) : Interchangeable strict s s :=
  ⟨rfl, fun _ _ _ => rfl⟩

theorem compile_congr {steps steps' : List Step}
    (h : List.Forall₂ (Interchangeable strict) steps steps') :
    compile strict ⟨steps⟩ = compile strict ⟨steps'⟩ := by
  have hsteps : ∀ current, compileSteps (compile strict) strict current steps =
      compileSteps (compile strict) strict current steps' := by
    induction h with
    | nil => exact fun _ => rfl
    | @cons s s' rest rest' hs _ ih =>
      intro current
      have hoperator : operatorOf strict s' = operatorOf strict s := by
        rw [operatorOf, operatorOf, hs.operator]
      rw [compileSteps, compileSteps, hoperator]
      cases hlookup : Operator.lookup s.operator with
      | none =>
        cases strict with
        | true =>
          rw [operatorOf_strict hlookup]
          rfl
        | false =>
          rw [operatorOf_lenient hlookup]
          exact Logged.ok_bind_congr (ih current)
      | some name =>
        obtain ⟨notices, -, heq⟩ := exists_operatorOf_eq hlookup
        rw [heq]
        refine Logged.ok_bind_congr ?_
        dsimp only
        rw [hs.apply name hlookup current]
        exact congrArg (Logged.bind _) (funext fun set => ih (some set))
  rw [compile_eq, compile_eq, hsteps]

section holding

variable {nested : Nested} {front back : List (String × Json)} {items items' : List Json}

theorem get?_holding_steps (hfront : "steps" ∉ front.map Prod.fst) :
    (holding front back items).get? "steps" = some (.arr items) := by
  rw [holding, Json.get?]
  induction front with
  | nil => rfl
  | cons e front ih =>
    rw [List.map_cons, List.mem_cons, not_or] at hfront
    rw [List.cons_append, Entries.get?, if_neg (Ne.symm hfront.1)]
    exact ih hfront.2

theorem get?_holding_of_ne {key : String} (hkey : key ≠ "steps") :
    (holding front back items).get? key = (holding front back items').get? key := by
  rw [holding, holding, Json.get?, Json.get?]
  induction front with
  | nil => rw [List.nil_append, List.nil_append, Entries.get?, Entries.get?, if_neg hkey.symm,
      if_neg hkey.symm]
  | cons e front ih => rw [List.cons_append, List.cons_append, Entries.get?, Entries.get?, ih]

theorem arguments_holding :
    arguments [] (holding front back items) = arguments [] (holding front back items') := by
  have hget : (holding front back items).get? "args" = (holding front back items').get? "args" :=
    get?_holding_of_ne (by decide)
  unfold arguments firstUnder
  rw [List.nil_append, List.findSome?_cons, List.findSome?_cons, hget]
  cases (holding front back items').get? "args" with
  | none => rfl
  | some value => cases value <;> rfl

theorem innerSelection?_holding (hfront : "steps" ∉ front.map Prod.fst)
    (h : nestedProgram nested (.arr items) = nestedProgram nested (.arr items'))
    (args : List Json) : innerSelection? nested (holding front back items) args =
      innerSelection? nested (holding front back items') args := by
  rw [innerSelection?, innerSelection?, get?_holding_steps hfront, get?_holding_steps hfront]
  dsimp only
  rw [h]

/-- What a step with other steps in it makes depends on these only through what they compile to. -/
theorem applyOperator_holding (hfront : "steps" ∉ front.map Prod.fst) {o : Operator}
    (ho : o ∈ nestingOperators)
    (h : nestedProgram nested (.arr items) = nestedProgram nested (.arr items'))
    (current : Option Selection) :
    applyOperator nested current o (holding front back items) =
      applyOperator nested current o (holding front back items') := by
  have harguments : arguments [] (holding front back items) =
      arguments [] (holding front back items') := arguments_holding
  have hgroup : groupArgument o (holding front back items) =
      groupArgument o (holding front back items') := by
    rw [groupArgument, groupArgument, harguments, get?_holding_of_ne (by decide)]
  have hinner? : ∀ args, innerSelection? nested (holding front back items) args =
      innerSelection? nested (holding front back items') args := innerSelection?_holding hfront h
  have hinner : innerSelection nested o (holding front back items) =
      innerSelection nested o (holding front back items') := by
    rw [innerSelection, innerSelection, harguments, hinner?]
  simp only [nestingOperators, List.mem_cons, List.not_mem_nil, or_false] at ho
  rcases ho with rfl | rfl | rfl | rfl | rfl
  · change refine nested .and _ _ = refine nested .and _ _
    rw [refine, refine, hinner]
  · change refine nested .except _ _ = refine nested .except _ _
    rw [refine, refine, hinner]
  all_goals
    cases current with
    | none =>
      rw [applyOperator, applyOperator, if_pos (by decide), if_pos (by decide)]
      simp only [startSelection, hinner, hinner?, hgroup]
    | some set => rfl

end holding

section reading

variable {r : Reader} {j j' : Json}

theorem corresponds_mapM_readStep
    (h : Corresponds (Interchangeable strict) (r.readStep j) (r.readStep j'))
    (before after : List Json) :
    Corresponds (List.Forall₂ (Interchangeable strict))
      ((before ++ j :: after).mapM r.readStep) ((before ++ j' :: after).mapM r.readStep) := by
  have hsame : ∀ steps, List.Forall₂ (Interchangeable strict) steps steps :=
    fun _ => List.forall₂_same.mpr fun s _ => .refl s
  induction before with
  | nil =>
    rw [List.nil_append, List.nil_append, List.mapM_cons, List.mapM_cons]
    exact h.bind fun s s' hs => .after _ fun rest => .ok (.cons hs (hsame rest))
  | cons first before ih =>
    rw [List.cons_append, List.cons_append, List.mapM_cons, List.mapM_cons]
    exact .after _ fun s => ih.bind fun rest rest' hrest => .ok (.cons (.refl s) hrest)

/-- Steps hold interchangeable steps if these are read alike. -/
theorem interchangeable_holding {operator : String} {name : Operator.Name}
    {front : List (String × Json)} (hlookup : Operator.lookup operator = some name)
    (hnesting : name.operator ∈ nestingOperators) (hfront : "steps" ∉ front.map Prod.fst)
    (h : Corresponds (Interchangeable strict) (heldReader.readStep j) (heldReader.readStep j'))
    (back : List (String × Json)) (before after : List Json) :
    Interchangeable strict ⟨operator, holding front back (before ++ j :: after)⟩
      ⟨operator, holding front back (before ++ j' :: after)⟩ := by
  refine ⟨rfl, fun name' hname current => ?_⟩
  obtain rfl : name = name' := Option.some.inj (hlookup.symm.trans hname)
  refine applyOperator_holding hfront hnesting ?_ current
  have hread := corresponds_mapM_readStep h before after
  rw [nestedProgram, nestedProgram]
  generalize (before ++ j :: after).mapM heldReader.readStep = steps at hread
  generalize (before ++ j' :: after).mapM heldReader.readStep = steps' at hread
  cases hread with
  | error e => rfl
  | @ok steps steps' hsteps =>
    change (Logged.ok steps).bind _ = (Logged.ok steps').bind _
    rw [Logged.ok_bind, Logged.ok_bind]
    exact compile_congr hsteps

theorem readStep_toJson_eq (r : Reader) (operator : String) (config : Json) :
    r.readStep (Step.toJson ⟨operator, config⟩) = do
      return ⟨operator, ← r.settle r.bindings config⟩ :=
  rfl

/-- Among the steps that a step holds, a line is read as its object is. -/
theorem WritesOut.corresponds_readStep (h : WritesOut [] j j') :
    Corresponds (Interchangeable strict) (heldReader.readStep j) (heldReader.readStep j') := by
  have hsettle : ∀ config, heldReader.settle [] config = substitute [] config := fun _ => rfl
  generalize hnil : ([] : Bindings) = bindings at h
  induction h with
  | @line line step config hspells hoperator hconfig =>
    subst hnil
    obtain ⟨heq, -⟩ := substitute_nil.mp hconfig
    rw [readStep_toJson_eq, hsettle, hconfig]
    change Corresponds _ (heldReader.readStepLine [] (Text.trim line)) _
    rw [hspells]
    exact .ok (.refl step)
  | @held operator name front back before after j j' hlookup hnesting hoperator hfront h ih =>
    subst hnil
    have hconfig := corresponds_holding h.corresponds_substitute hfront back before after
    rw [readStep_toJson_eq, readStep_toJson_eq, hsettle, hsettle]
    generalize hk : substitute [] (holding front back (before ++ j :: after)) = k at hconfig
    generalize hk' : substitute [] (holding front back (before ++ j' :: after)) = k' at hconfig
    cases hconfig with
    | error e => exact .error e
    | ok _ =>
      obtain ⟨rfl, -⟩ := substitute_nil.mp hk
      obtain ⟨rfl, -⟩ := substitute_nil.mp hk'
      exact .ok (interchangeable_holding hlookup hnesting hfront ih back before after)

end reading

section documents

variable {r : Reader} {j j' : Json}

theorem corresponds_readSteps
    (h : Corresponds (Interchangeable strict) (r.readStep j) (r.readStep j'))
    (before after : List Json) (index : Nat) :
    Corresponds (fun read read' =>
        List.Forall₂ (Interchangeable strict) read.1 read'.1 ∧ read.2 = read'.2)
      (r.readSteps index (before ++ j :: after)) (r.readSteps index (before ++ j' :: after)) := by
  have hsame : ∀ read : List Step × List String,
      List.Forall₂ (Interchangeable strict) read.1 read.1 ∧ read.2 = read.2 :=
    fun read => ⟨List.forall₂_same.mpr fun s _ => .refl s, rfl⟩
  induction before generalizing index with
  | nil =>
    rw [List.nil_append, List.nil_append, readSteps, readSteps]
    generalize r.readStep j = x at h
    generalize r.readStep j' = x' at h
    cases h with
    | error e => exact .refl hsame _
    | ok hs => exact .after _ fun read => .ok ⟨.cons hs (hsame read).1, rfl⟩
  | cons first before ih =>
    rw [List.cons_append, List.cons_append, readSteps, readSteps]
    cases r.readStep first with
    | error e =>
      dsimp only
      split_ifs
      · exact .error _
      · refine (ih (index + 1)).bind ?_
        rintro ⟨steps, warnings⟩ ⟨steps', warnings'⟩ ⟨hsteps, hwarnings⟩
        obtain rfl : warnings = warnings' := hwarnings
        exact .ok ⟨hsteps, rfl⟩
    | ok s =>
      exact (ih (index + 1)).bind fun read read' hread => .ok ⟨.cons (.refl s) hread.1, hread.2⟩

/-- Reads a document and compiles the program in it. -/
def compileDocument (r : Reader) (strict : Bool) (document : Json) : Logged Selection := do
  let reading ← Logged.ofExcept (r.readDocument document)
  compile strict reading.program

/-- The forms of a document with these steps. -/
def documentForms : List (List Json → Json) :=
  [.arr, fun items => .obj [("steps", .arr items)], fun items => .obj [("selection", .arr items)]]

theorem compileDocument_congr
    (h : Corresponds (Interchangeable strict) (r.readStep j) (r.readStep j'))
    (before after : List Json) {form : List Json → Json} (hform : form ∈ documentForms) :
    compileDocument r strict (form (before ++ j :: after)) =
      compileDocument r strict (form (before ++ j' :: after)) := by
  have hread : ∀ items, r.readDocument (form items) = r.readStepList items := by
    intro items
    simp only [documentForms, List.mem_cons, List.not_mem_nil, or_false] at hform
    rcases hform with rfl | rfl | rfl <;> rfl
  have hsteps := corresponds_readSteps h before after 0
  rw [compileDocument, compileDocument, hread, hread, readStepList, readStepList]
  generalize r.readSteps 0 (before ++ j :: after) = x at hsteps
  generalize r.readSteps 0 (before ++ j' :: after) = x' at hsteps
  cases hsteps with
  | error e => rfl
  | @ok read read' hread =>
    change (Logged.ok (⟨⟨read.1⟩, read.2, r.bindings⟩ : Reading)).bind _ =
      (Logged.ok (⟨⟨read'.1⟩, read'.2, r.bindings⟩ : Reading)).bind _
    rw [Logged.ok_bind, Logged.ok_bind]
    exact compile_congr hread.1

/-- A line among the steps of a step is as good as the object of its operator and a configuration
that the variables turn into the one that the line spells without them. So the configuration of the
line itself will do if the variables leave it alone. -/
theorem compileDocument_line_eq_object (hr : r.allowVariables = true) {operator : String}
    {name : Operator.Name} (hlookup : Operator.lookup operator = some name)
    (hnesting : name.operator ∈ nestingOperators) {front : List (String × Json)}
    (hfront : "steps" ∉ front.map Prod.fst) (hline : WritesOut r.bindings j j')
    (strict : Bool) (back : List (String × Json)) (before after first last : List Json)
    {form : List Json → Json} (hform : form ∈ documentForms) :
    compileDocument r strict (form (first ++
        Step.toJson ⟨operator, holding front back (before ++ j :: after)⟩ :: last)) =
      compileDocument r strict (form (first ++
        Step.toJson ⟨operator, holding front back (before ++ j' :: after)⟩ :: last)) := by
  refine compileDocument_congr ?_ first last hform
  rw [readStep_toJson_eq, readStep_toJson_eq, settle, settle, if_pos hr, if_pos hr]
  refine (corresponds_holding hline.corresponds_substitute hfront back before after).bind ?_
  rintro _ _ ⟨hfront, h⟩
  exact .ok (interchangeable_holding hlookup hnesting hfront h.corresponds_readStep _ _ _)

/-- Two levels down, a line stands for an object that takes the column from a variable. -/
theorem compileDocument_line_eq_object_nested :
    let r : Reader := ⟨true, true, [("x", .str "id")]⟩
    let object : Json := Step.toJson ⟨"except", .obj [("args", .arr [.str "$x"])]⟩
    let within : Json → Json := fun item => Step.toJson
      ⟨"in", holding [("group", .str "g")] [] ([.str "all"] ++ item :: [])⟩
    let document : Json → Json := fun item => .arr ([] ++ Step.toJson
      ⟨"all_except", holding [] [] ([] ++ within item :: [])⟩ :: [])
    r.allowVariables = true ∧ Operator.lookup "all_except" = some ⟨.allExcept, false⟩ ∧
      .allExcept ∈ nestingOperators ∧
      WritesOut r.bindings (within (.str "except id")) (within object) ∧
      compileDocument r true (document (.str "except id")) =
        compileDocument r true (document object) := by
  intro r object within document
  have hspells : LineSpells "except id" ⟨"except", .obj [("args", .arr [.str "id"])]⟩ := rfl
  have hline : WritesOut r.bindings (.str "except id") object := .line hspells rfl rfl
  have hin : Operator.lookup "in" = some ⟨.within, false⟩ := by decide
  have hwithin : WritesOut r.bindings (within (.str "except id")) (within object) :=
    .held hin (by decide) rfl (by decide) hline
  have hlookup : Operator.lookup "all_except" = some ⟨.allExcept, false⟩ := by decide
  have hnesting : Operator.allExcept ∈ nestingOperators := by decide
  exact ⟨rfl, hlookup, hnesting, hwithin, compileDocument_line_eq_object rfl hlookup hnesting
    (by decide) hwithin true [] [] [] [] [] (.head _)⟩

/-- A variable is put into an object among the steps of a step, but not into the line that spells
the same step. -/
theorem compileDocument_line_ne_object :
    LineSpells "cols $x" ⟨"cols", .obj [("args", .arr [.str "$x"])]⟩ ∧
      (compileDocument ⟨true, true, [("x", .str "id")]⟩ true
          (.arr [Step.toJson ⟨"except", holding [] [] [.str "cols $x"]⟩])).outcome =
        .ok (.except .all (.columns [.name "$x"])) ∧
      (compileDocument ⟨true, true, [("x", .str "id")]⟩ true
          (.arr [Step.toJson ⟨"except", holding [] []
            [Step.toJson ⟨"cols", .obj [("args", .arr [.str "$x"])]⟩]⟩])).outcome =
        .ok (.except .all (.columns [.name "id"])) := by
  refine ⟨rfl, ?_, ?_⟩
  · rfl
  · rfl

end documents

end interchangeable

end Program

end ColumnSelection
