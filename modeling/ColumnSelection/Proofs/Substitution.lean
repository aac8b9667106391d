import ColumnSelection.Proofs.StepReading

/-!
# Substituting variables

Substitution puts values in the places of texts and leaves all else as it is: numbers, keys and the
order of items and entries. It succeeds exactly if every text stands for something, and otherwise
fails at the first text that needs a variable without a value.
-/
namespace ColumnSelection

namespace Json

mutual

/-- The value with other values in the places of its strings; keys are left alone. -/
def mapTexts (f : String → Json) : Json → Json
  | .str s => f s
  | .arr items => .arr (mapTextsOfItems f items)
  | .obj fields => .obj (mapTextsOfFields f fields)
  | .null => .null
  | .bool b => .bool b
  | .int n => .int n
  | .float x => .float x
termination_by structural j => j

@[inherit_doc mapTexts]
def mapTextsOfItems (f : String → Json) : List Json → List Json
  | [] => []
  | j :: rest => mapTexts f j :: mapTextsOfItems f rest
termination_by structural items => items

@[inherit_doc mapTexts]
def mapTextsOfFields (f : String → Json) : List (String × Json) → List (String × Json)
  | [] => []
  | (k, j) :: rest => (k, mapTexts f j) :: mapTextsOfFields f rest
termination_by structural fields => fields

end

end Json

namespace Program

section variableUse

variable {s name : String}

theorem variableUse_eq_required_iff :
    variableUse s = .required name ↔ s = "$\x7b" ++ name ++ "\x7d" := by
  have hdollar : "$\x7b".toList = ['$', '{'] := rfl
  have hbrace : "\x7d".toList = ['}'] := rfl
  rw [← String.toList_inj, String.toList_append, String.toList_append, hdollar, hbrace, variableUse]
  split
  · rename_i rest hs
    rw [hs]
    split_ifs with hlast
    · obtain ⟨front, rfl⟩ := List.getLast?_eq_some_iff.mp hlast
      rw [List.dropLast_concat, VariableUse.required.injEq, ← String.toList_inj,
        String.toList_ofList]
      simp
    · refine iff_of_false (by simp) fun h => hlast ?_
      have hrest : rest = name.toList ++ ['}'] := by simpa using h
      rw [hrest, List.getLast?_concat]
  · rename_i rest hrest hs
    rw [hs]
    refine iff_of_false (by simp) fun h => ?_
    exact hrest _ (List.cons_inj_right '$' |>.mp h)
  · rename_i hs
    exact iff_of_false (by simp) fun h => hs _ h

theorem eq_dollar_append_iff : s = "$" ++ name ↔ s.toList = '$' :: name.toList := by
  rw [← String.toList_inj, String.toList_append]
  rfl

theorem eq_of_variableUse_optional (h : variableUse s = .optional name) : s = "$" ++ name := by
  rw [eq_dollar_append_iff]
  rw [variableUse] at h
  split at h
  · rename_i rest hs
    split_ifs at h
    obtain rfl := VariableUse.optional.inj h
    rw [hs, String.toList_ofList]
  · rename_i rest hrest hs
    obtain rfl := VariableUse.optional.inj h
    rw [hs, String.toList_ofList]
  · cases h

theorem variableUse_eq_optional_iff :
    variableUse s = .optional name ↔ s = "$" ++ name ∧ ∀ n, s ≠ "$\x7b" ++ n ++ "\x7d" := by
  constructor
  · intro h
    refine ⟨eq_of_variableUse_optional h, fun n hn => ?_⟩
    rw [variableUse_eq_required_iff.mpr hn] at h
    cases h
  · rintro ⟨hs, hnever⟩
    cases huse : variableUse s with
    | required n => exact absurd (variableUse_eq_required_iff.mp huse) (hnever n)
    | optional n =>
      have hsame := hs.symm.trans (eq_of_variableUse_optional huse)
      have hname : name = n := by simpa using hsame
      rw [hname]
    | none =>
      rw [variableUse_eq_none_iff, eq_dollar_append_iff.mp hs] at huse
      exact absurd rfl huse

theorem variableUse_eq_none_iff_forall :
    variableUse s = .none ↔ ∀ n, s ≠ "$" ++ n := by
  rw [variableUse_eq_none_iff]
  constructor
  · intro h n hn
    rw [eq_dollar_append_iff.mp hn] at h
    exact h rfl
  · intro h hhead
    obtain ⟨rest, hs⟩ := List.head?_eq_some_iff.mp hhead
    refine h (String.ofList rest) (eq_dollar_append_iff.mpr ?_)
    rw [hs, String.toList_ofList]

end variableUse

/-- What a text stands for, by the values of variables. A name in braces has to have a value; a
plain name may lack one, and the text then stands for itself, like any other text. -/
inductive StandsFor (values : String → Option Json) (s : String) : Json → Prop
  | required {name j} : s = "$\x7b" ++ name ++ "\x7d" → values name = some j → StandsFor values s j
  | optional {name j} : (∀ n, s ≠ "$\x7b" ++ n ++ "\x7d") → s = "$" ++ name →
      values name = some j → StandsFor values s j
  | itself : (∀ n, s ≠ "$\x7b" ++ n ++ "\x7d") → (∀ name, s = "$" ++ name → values name = none) →
      StandsFor values s (.str s)

section substituteText

variable {bindings : Bindings} {s : String} {j : Json} {e : Failure}

theorem substituteText_eq_ok_iff :
    substituteText bindings s = .ok j ↔ StandsFor (Entries.get? · bindings) s j := by
  rw [substituteText]
  cases huse : variableUse s with
  | required name =>
    have hs := variableUse_eq_required_iff.mp huse
    constructor
    · intro h
      cases hvalue : Entries.get? name bindings with
      | none => simp [hvalue] at h
      | some value =>
        simp only [hvalue, Except.ok.injEq] at h
        exact h ▸ .required hs hvalue
    · intro h
      cases h with
      | @required n _ hn hvalue =>
        rw [variableUse_eq_required_iff.mpr hn] at huse
        obtain rfl := VariableUse.required.inj huse
        simp only [hvalue]
      | optional hnever _ _ => exact absurd hs (hnever name)
      | itself hnever _ => exact absurd hs (hnever name)
  | optional name =>
    obtain ⟨hs, hnever⟩ := variableUse_eq_optional_iff.mp huse
    rw [Except.ok.injEq]
    constructor
    · rintro rfl
      cases hvalue : Entries.get? name bindings with
      | some value => exact .optional hnever hs hvalue
      | none =>
        refine .itself hnever fun n hn => ?_
        have hname : name = n := by simpa using hs.symm.trans hn
        exact hname ▸ hvalue
    · intro h
      cases h with
      | required hn _ => exact absurd hn (hnever _)
      | @optional n _ _ hn hvalue =>
        have hname : name = n := by simpa using hs.symm.trans hn
        rw [hname, hvalue, Option.getD_some]
      | itself _ hunbound => rw [hunbound name hs, Option.getD_none]
  | none =>
    have hplain := variableUse_eq_none_iff_forall.mp huse
    have hnever : ∀ n, s ≠ "$\x7b" ++ n ++ "\x7d" := by
      intro n hn
      rw [variableUse_eq_required_iff.mpr hn] at huse
      cases huse
    rw [Except.ok.injEq]
    constructor
    · rintro rfl
      exact .itself hnever fun n hn => absurd hn (hplain n)
    · intro h
      cases h with
      | required hn _ => exact absurd hn (hnever _)
      | optional _ hn _ => exact absurd hn (hplain _)
      | itself => rfl

theorem substituteText_eq_error_iff : substituteText bindings s = .error e ↔
    ∃ name, s = "$\x7b" ++ name ++ "\x7d" ∧ Entries.get? name bindings = none ∧
      e = .validation (.undefinedVariable name) := by
  simp only [← variableUse_eq_required_iff]
  rw [substituteText]
  cases variableUse s with
  | required name =>
    cases hvalue : Entries.get? name bindings <;> simp [hvalue, eq_comm]
  | optional name => simp
  | none => simp

end substituteText

section substitute

variable {bindings : Bindings}

/-- What is put in the place of a text, or the text itself where substitution fails. -/
def replacement (bindings : Bindings) (s : String) : Json :=
  match substituteText bindings s with
  | .ok j => j
  | .error _ => .str s

variable (bindings)

mutual

/-- The texts of a value are looked up in order; if none of them fails, their replacements are put
in their places. -/
theorem substitute_eq : ∀ j : Json, substitute bindings j =
    (fun _ => j.mapTexts (replacement bindings)) <$> j.texts.mapM (substituteText bindings)
  | .str s => by
    rw [substitute, Json.texts, Json.mapTexts, List.mapM_cons, List.mapM_nil, replacement]
    cases substituteText bindings s <;> rfl
  | .arr items => by
    rw [substitute, substituteItems_eq items, Json.texts, Json.mapTexts]
    cases (Json.textsOfItems items).mapM (substituteText bindings) <;> rfl
  | .obj fields => by
    rw [substitute, substituteFields_eq fields, Json.texts, Json.mapTexts]
    cases (Json.textsOfFields fields).mapM (substituteText bindings) <;> rfl
  | .null => rfl
  | .bool _ => rfl
  | .int _ => rfl
  | .float _ => rfl
termination_by structural j => j

theorem substituteItems_eq : ∀ items : List Json, substituteItems bindings items =
    (fun _ => Json.mapTextsOfItems (replacement bindings) items) <$>
      (Json.textsOfItems items).mapM (substituteText bindings)
  | [] => rfl
  | j :: rest => by
    rw [substituteItems, substitute_eq j, substituteItems_eq rest, Json.textsOfItems,
      Json.mapTextsOfItems, List.mapM_append]
    cases j.texts.mapM (substituteText bindings) with
    | error e => rfl
    | ok _ => cases (Json.textsOfItems rest).mapM (substituteText bindings) <;> rfl
termination_by structural items => items

theorem substituteFields_eq : ∀ fields : List (String × Json), substituteFields bindings fields =
    (fun _ => Json.mapTextsOfFields (replacement bindings) fields) <$>
      (Json.textsOfFields fields).mapM (substituteText bindings)
  | [] => rfl
  | (k, j) :: rest => by
    rw [substituteFields, substitute_eq j, substituteFields_eq rest, Json.textsOfFields,
      Json.mapTextsOfFields, List.mapM_append]
    cases j.texts.mapM (substituteText bindings) with
    | error e => rfl
    | ok _ => cases (Json.textsOfFields rest).mapM (substituteText bindings) <;> rfl
termination_by structural fields => fields

end

variable {bindings} {j j' : Json} {e : Failure}

theorem substituteText_replacement {s : String} (h : ∃ v, substituteText bindings s = .ok v) :
    substituteText bindings s = .ok (replacement bindings s) := by
  obtain ⟨v, hv⟩ := h
  rw [replacement, hv]

/-- Substitution puts what each text stands for in its place. -/
theorem exists_of_substitute (h : substitute bindings j = .ok j') :
    ∃ f : String → Json, (∀ s ∈ j.texts, StandsFor (Entries.get? · bindings) s (f s)) ∧
      j' = j.mapTexts f := by
  rw [substitute_eq] at h
  cases htexts : j.texts.mapM (substituteText bindings) with
  | error e =>
    rw [htexts] at h
    cases h
  | ok values =>
    rw [htexts] at h
    refine ⟨replacement bindings, fun s hs => ?_, (Except.ok.inj h).symm⟩
    exact substituteText_eq_ok_iff.mp (substituteText_replacement (exists_ok_of_mapM htexts s hs))

/-- Substitution fails at the first text that needs a variable without a value. -/
theorem substitute_eq_error_iff : substitute bindings j = .error e ↔
    ∃ front s back name, j.texts = front ++ s :: back ∧
      (∀ t ∈ front, ∃ v, StandsFor (Entries.get? · bindings) t v) ∧
      s = "$\x7b" ++ name ++ "\x7d" ∧ Entries.get? name bindings = none ∧
      e = .validation (.undefinedVariable name) := by
  have hmap : substitute bindings j = .error e ↔
      j.texts.mapM (substituteText bindings) = .error e := by
    rw [substitute_eq]
    cases j.texts.mapM (substituteText bindings) <;> simp
  simp only [hmap, mapM_eq_error_iff, substituteText_eq_ok_iff, substituteText_eq_error_iff]
  refine exists_congr fun front => exists_congr fun s => exists_congr fun back => ?_
  constructor
  · rintro ⟨hcut, hfront, name, hs, hunbound, he⟩
    exact ⟨name, hcut, hfront, hs, hunbound, he⟩
  · rintro ⟨name, hcut, hfront, hs, hunbound, he⟩
    exact ⟨hcut, hfront, name, hs, hunbound, he⟩

end substitute

end Program

end ColumnSelection
