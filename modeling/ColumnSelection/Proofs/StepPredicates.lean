import ColumnSelection.Proofs.Compiling
import ColumnSelection.Proofs.Projection

/-!
# Predicates of steps

Read as a predicate, an object asks for all of the filters under its keys. The predicate of a step
is read from the configuration in another way: what stands under `predicate`, or else under
`where`, is taken for the whole, and the filters beside it are passed over. So the two agree exactly
if the filters passed over can be read and ask for nothing more.
-/
namespace ColumnSelection

namespace Entries

variable {α : Type} {key other : String} {value : α} {entries : List (String × α)}

theorem get?_erase_of_ne (h : other ≠ key) :
    get? other (erase key entries) = get? other entries := by
  induction entries with
  | nil => rfl
  | cons e rest ih =>
    obtain ⟨k, v⟩ := e
    rw [erase] at ih ⊢
    by_cases hk : k = key
    · rw [List.filter_cons_of_neg (by simpa using hk), ih, get?,
        if_neg (fun he => h (he.symm.trans hk))]
    · rw [List.filter_cons_of_pos (by simpa using hk), get?, get?, ih]

theorem erase_eq_self (h : key ∉ entries.map Prod.fst) : erase key entries = entries := by
  refine List.filter_eq_self.mpr fun e he => decide_eq_true ?_
  rintro rfl
  exact h (List.mem_map_of_mem he)

/-- Among distinct keys, erasing one takes out its own entry. -/
theorem exists_erase_eq_append (hnodup : (entries.map Prod.fst).Nodup)
    (h : get? key entries = some value) :
    ∃ front back, entries = front ++ (key, value) :: back ∧ erase key entries = front ++ back := by
  obtain ⟨front, back, rfl⟩ := List.append_of_mem (mem_of_get? h)
  rw [List.map_append, List.map_cons, List.nodup_append, List.nodup_cons] at hnodup
  obtain ⟨-, ⟨hback, -⟩, hfront⟩ := hnodup
  refine ⟨front, back, rfl, ?_⟩
  have hbefore : erase key front = front :=
    erase_eq_self fun hmem => hfront key hmem key (.head _) rfl
  have hafter : erase key back = back := erase_eq_self hback
  rw [erase] at hbefore hafter ⊢
  rw [List.filter_append, List.filter_cons_of_neg (by simp), hbefore, hafter]

end Entries

namespace Program

open Predicate

/-- Both readings fail, or they give predicates of the same columns. -/
inductive ReadAlike : Except Failure Predicate → Except Failure Predicate → Prop
  | error (e f : Failure) : ReadAlike (.error e) (.error f)
  | ok {p q : Predicate} (h : ∀ c, p.holds c = q.holds c) : ReadAlike (.ok p) (.ok q)

theorem holds_conjunction (c : Column) (ps : List Predicate) :
    (conjunction ps).holds c = ps.all (holds c) := by
  rcases ps with _ | ⟨p, _ | ⟨q, rest⟩⟩
  · rfl
  · exact (Bool.and_true _).symm
  · exact allHold_eq_all c _

section readFilters

variable {ignored : Bool} {key : String} {j : Json} {front rest : List (String × Json)}
  {ps : List Predicate}

theorem readFilters_cons_eq_ok : readFilters ignored ((key, j) :: rest) = .ok ps ↔
    ∃ here more, readFilters ignored [(key, j)] = .ok here ∧ readFilters ignored rest = .ok more ∧
      ps = here ++ more := by
  rw [readFilters, readFilters]
  cases plainFilter? ignored key j with
  | some p => simp [readFilters, pure, Except.pure, @eq_comm _ ps]
  | none => split_ifs <;> simp [readFilters, pure, Except.pure, @eq_comm _ ps]

theorem readFilters_append_eq_ok : readFilters ignored (front ++ rest) = .ok ps ↔
    ∃ before after, readFilters ignored front = .ok before ∧
      readFilters ignored rest = .ok after ∧ ps = before ++ after := by
  induction front generalizing ps with
  | nil => simp [readFilters]
  | cons e front ih =>
    obtain ⟨key, j⟩ := e
    rw [List.cons_append, readFilters_cons_eq_ok]
    constructor
    · rintro ⟨here, more, hhere, hmore, rfl⟩
      obtain ⟨before, after, hbefore, hafter, rfl⟩ := ih.mp hmore
      exact ⟨here ++ before, after, readFilters_cons_eq_ok.mpr ⟨here, before, hhere, hbefore, rfl⟩,
        hafter, (List.append_assoc ..).symm⟩
    · rintro ⟨before, after, hbefore, hafter, rfl⟩
      obtain ⟨here, more, hhere, hmore, rfl⟩ := readFilters_cons_eq_ok.mp hbefore
      exact ⟨here, more ++ after, hhere, ih.mpr ⟨more, after, hmore, hafter, rfl⟩,
        List.append_assoc ..⟩

theorem readFilters_nested (h : key = "predicate" ∨ key = "where") :
    readFilters ignored [(key, j)] = .ok ps ↔ ∃ p, readPredicate j = .ok p ∧ ps = [p] := by
  have hplain : plainFilter? ignored key j = none := by
    rcases h with rfl | rfl <;> rfl
  have hnot : key ≠ "not" := by
    rcases h with rfl | rfl <;> decide
  have hlist : ¬ (key = "all_of" ∨ key = "any_of") := by
    rcases h with rfl | rfl <;> decide
  rw [readFilters, hplain]
  simp [readFilters, hnot, hlist, h, pure, Except.pure, @eq_comm _ ps]

end readFilters

section predicateSource

variable {fields : List (String × Json)}

/-- The value that the predicate of a configuration is read from. -/
def predicateSource (fields : List (String × Json)) : Json :=
  (firstUnder ["predicate", "where"] (.obj fields)).getD (.obj fields)

/-- The entries of a configuration beside the one that its predicate is read from. -/
def passedOver (fields : List (String × Json)) : List (String × Json) :=
  if Entries.contains "predicate" fields then Entries.erase "predicate" fields
  else if Entries.contains "where" fields then Entries.erase "where" fields
  else []

theorem predicateArgument?_eq (hkey : ∃ key ∈ predicateKeys, Entries.contains key fields = true) :
    predicateArgument? (.obj fields) = some <$> readPredicate (predicateSource fields) := by
  rw [predicateArgument?, predicateSource]
  cases firstUnder ["predicate", "where"] (.obj fields) with
  | some nested => rfl
  | none =>
    dsimp only
    rw [if_pos (List.any_eq_true.mpr hkey)]
    rfl

theorem predicateArgument_eq (hkey : ∃ key ∈ predicateKeys, Entries.contains key fields = true) :
    predicateArgument (.obj fields) = readPredicate (predicateSource fields) := by
  rw [predicateArgument, predicateArgument?_eq hkey]
  cases readPredicate (predicateSource fields) <;> rfl

theorem readPredicate_obj_eq_ok {r : Predicate} : readPredicate (.obj fields) = .ok r ↔
    ∃ ps, readFilters (ignoreCase (.obj fields)) fields = .ok ps ∧ r = conjunction ps := by
  simp [readPredicate, pure, Except.pure, @eq_comm _ r]

/-- With its other entries, a predicate under a key of its own makes up the object. -/
theorem readPredicate_nested_iff (hnodup : (fields.map Prod.fst).Nodup) {key : String} {j : Json}
    (hkey : key = "predicate" ∨ key = "where") (hj : Entries.get? key fields = some j)
    {test : Column → Bool} :
    (∃ r, readPredicate (.obj fields) = .ok r ∧ ∀ c, r.holds c = test c) ↔
      ∃ p q, readPredicate j = .ok p ∧ readPredicate (.obj (Entries.erase key fields)) = .ok q ∧
        ∀ c, test c = (p.holds c && q.holds c) := by
  have hcase : ignoreCase (.obj (Entries.erase key fields)) = ignoreCase (.obj fields) := by
    have hne : "ignore_case" ≠ key := by
      rcases hkey with rfl | rfl <;> decide
    rw [ignoreCase, ignoreCase, Json.get?, Json.get?, Entries.get?_erase_of_ne hne]
  obtain ⟨front, back, hfields, herase⟩ := Entries.exists_erase_eq_append hnodup hj
  simp only [readPredicate_obj_eq_ok, hcase]
  generalize ignoreCase (.obj fields) = ignored
  rw [herase, hfields]
  constructor
  · rintro ⟨r, ⟨ps, hps, rfl⟩, htest⟩
    obtain ⟨before, more, hbefore, hmore, rfl⟩ := readFilters_append_eq_ok.mp hps
    obtain ⟨here, after, hhere, hafter, rfl⟩ := readFilters_cons_eq_ok.mp hmore
    obtain ⟨p, hp, rfl⟩ := (readFilters_nested hkey).mp hhere
    refine ⟨p, conjunction (before ++ after), hp, ⟨before ++ after, ?_, rfl⟩, fun c => ?_⟩
    · exact readFilters_append_eq_ok.mpr ⟨before, after, hbefore, hafter, rfl⟩
    · rw [← htest c, holds_conjunction, holds_conjunction]
      simp [Bool.and_left_comm]
  · rintro ⟨p, q, hp, ⟨ps, hps, rfl⟩, htest⟩
    obtain ⟨before, after, hbefore, hafter, rfl⟩ := readFilters_append_eq_ok.mp hps
    have hhere : readFilters ignored [(key, j)] = .ok [p] :=
      (readFilters_nested hkey).mpr ⟨p, hp, rfl⟩
    refine ⟨conjunction (before ++ ([p] ++ after)), ⟨before ++ ([p] ++ after), ?_, rfl⟩,
      fun c => ?_⟩
    · refine readFilters_append_eq_ok.mpr ⟨before, [p] ++ after, hbefore, ?_, rfl⟩
      exact readFilters_cons_eq_ok.mpr ⟨[p], after, hhere, hafter, rfl⟩
    · rw [htest c, holds_conjunction, holds_conjunction]
      simp [Bool.and_left_comm]

/-- Read as a predicate, a configuration asks for the predicate of its step and for what is passed
over beside it. -/
theorem readPredicate_obj_iff (hnodup : (fields.map Prod.fst).Nodup) {test : Column → Bool} :
    (∃ r, readPredicate (.obj fields) = .ok r ∧ ∀ c, r.holds c = test c) ↔
      ∃ p q, readPredicate (predicateSource fields) = .ok p ∧
        readPredicate (.obj (passedOver fields)) = .ok q ∧
          ∀ c, test c = (p.holds c && q.holds c) := by
  cases hpredicate : Entries.get? "predicate" fields with
  | some j =>
    have hsource : predicateSource fields = j := by
      simp [predicateSource, firstUnder, Json.get?, hpredicate]
    rw [readPredicate_nested_iff hnodup (.inl rfl) hpredicate, hsource, passedOver, if_pos]
    simp [Entries.contains, hpredicate]
  | none =>
    have hnot : ¬ Entries.contains "predicate" fields = true := by
      simp [Entries.contains, hpredicate]
    cases hwhere : Entries.get? "where" fields with
    | some j =>
      have hsource : predicateSource fields = j := by
        simp [predicateSource, firstUnder, Json.get?, hpredicate, hwhere]
      rw [readPredicate_nested_iff hnodup (.inr rfl) hwhere, hsource, passedOver, if_neg hnot,
        if_pos]
      simp [Entries.contains, hwhere]
    | none =>
      have hsource : predicateSource fields = .obj fields := by
        simp [predicateSource, firstUnder, Json.get?, hpredicate, hwhere]
      have hnone : passedOver fields = [] := by
        simp [passedOver, Entries.contains, hpredicate, hwhere]
      have hany : readPredicate (.obj []) = .ok .any := rfl
      rw [hsource, hnone, hany]
      constructor
      · rintro ⟨r, hr, htest⟩
        exact ⟨r, .any, hr, rfl, fun c => by rw [← htest c]; exact (Bool.and_true _).symm⟩
      · rintro ⟨r, q, hr, hq, htest⟩
        obtain rfl := Except.ok.inj hq
        exact ⟨r, hr, fun c => by rw [htest c]; exact (Bool.and_true _).symm⟩

/-- The predicate of a step is as good as that of its whole configuration exactly if what is passed
over can be read and follows from it. -/
theorem readAlike_iff (hnodup : (fields.map Prod.fst).Nodup) :
    ReadAlike (readPredicate (predicateSource fields)) (readPredicate (.obj fields)) ↔
      ∀ p, readPredicate (predicateSource fields) = .ok p →
        ∃ q, readPredicate (.obj (passedOver fields)) = .ok q ∧
          ∀ c, p.holds c = true → q.holds c = true := by
  cases hsource : readPredicate (predicateSource fields) with
  | error e =>
    refine iff_of_true ?_ nofun
    cases hwhole : readPredicate (.obj fields) with
    | error f => exact .error e f
    | ok r =>
      obtain ⟨p, -, hp, -⟩ := (readPredicate_obj_iff hnodup).mp ⟨r, hwhole, fun _ => rfl⟩
      rw [hsource] at hp
      cases hp
  | ok p =>
    simp only [Except.ok.injEq, forall_eq']
    constructor
    · intro halike
      cases hwhole : readPredicate (.obj fields) with
      | error f =>
        rw [hwhole] at halike
        cases halike
      | ok r =>
        rw [hwhole] at halike
        cases halike with
        | ok hsame =>
          obtain ⟨p', q, hp, hq, hboth⟩ :=
            (readPredicate_obj_iff hnodup).mp ⟨r, hwhole, fun _ => rfl⟩
          rw [hsource] at hp
          obtain rfl := Except.ok.inj hp
          refine ⟨q, hq, fun c hc => ?_⟩
          have hc' := (hsame c).symm.trans hc
          rw [hboth c, hc, Bool.true_and] at hc'
          exact hc'
    · rintro ⟨q, hq, himp⟩
      obtain ⟨r, hwhole, hboth⟩ := (readPredicate_obj_iff hnodup).mpr
        ⟨p, q, hsource, hq, fun _ => rfl⟩
      rw [hwhole]
      refine .ok fun c => ?_
      rw [hboth c]
      cases hc : p.holds c with
      | false => rfl
      | true => rw [himp c hc]; rfl

end predicateSource

section attach

variable {fields : List (String × Json)} {nested : Nested} {current : Option Selection}
  {o : Operator} {build : Predicate → Selection}

/-- The selection that an operator makes with a predicate behind what is built so far, if it is one
that takes a predicate there. -/
def attach? (current : Option Selection) : Operator → Option (Predicate → Selection)
  | .colsWhere => some fun p => current.elim (.satisfying p) fun set => .filter set p
  | .colsAtAnyDepth => if current.isSome then none else some .anyDepth
  | .filter => some (.filter (current.getD .all))
  | .takeWhile => some fun p => .slice (current.getD .all) (.takeWhile p)
  | .takeLastWhile => some fun p => .slice (current.getD .all) (.takeLastWhile p)
  | .dropWhile => some fun p => .slice (current.getD .all) (.dropWhile p)
  | .dropLastWhile => some fun p => .slice (current.getD .all) (.dropLastWhile p)
  | .firstCol => some fun p => .pick (current.getD .all) .first (some p)
  | .lastCol => some fun p => .pick (current.getD .all) .last (some p)
  | .singleCol => some fun p => .pick (current.getD .all) .single (some p)
  | _ => none

theorem applyOperator_attach (hkey : ∃ key ∈ predicateKeys, Entries.contains key fields = true)
    (hattach : attach? current o = some build) :
    applyOperator nested current o (.obj fields) =
      Logged.ofExcept (build <$> predicateArgument (.obj fields)) := by
  have hoptional := predicateArgument?_eq hkey
  rw [← predicateArgument_eq hkey] at hoptional
  generalize hread : predicateArgument (.obj fields) = read at hoptional ⊢
  have hmade : ∀ make : Predicate → Selection,
      (Logged.ofExcept (predicateArgument (.obj fields)) >>= fun p => pure (make p)) =
        Logged.ofExcept (make <$> read) := by
    intro make
    rw [hread]
    cases read <;> rfl
  have hpicked : ∀ make : Option Predicate → Selection,
      (Logged.ofExcept (predicateArgument? (.obj fields)) >>= fun p => pure (make p)) =
        Logged.ofExcept ((fun p => make (some p)) <$> read) := by
    intro make
    rw [hoptional]
    cases read <;> rfl
  cases o with
  | colsWhere =>
    cases hattach
    cases current with
    | none => exact hmade .satisfying
    | some set => exact hmade (.filter set)
  | colsAtAnyDepth =>
    cases current with
    | none =>
      cases hattach
      exact hmade .anyDepth
    | some set => cases hattach
  | filter | takeWhile | takeLastWhile | dropWhile | dropLastWhile =>
    cases hattach
    exact hmade _
  | firstCol | lastCol | singleCol =>
    cases hattach
    exact hpicked (.pick (current.getD .all) _)
  | _ => cases hattach

/-- An operator that takes a predicate attaches the one that stands under `predicate` or `where`, or
else that of all filters of the configuration. It attaches what the configuration asks for exactly
if the entries passed over can be read and ask for nothing more. -/
theorem attached_readAlike_iff (hnodup : (fields.map Prod.fst).Nodup)
    (hkey : ∃ key ∈ predicateKeys, Entries.contains key fields = true)
    (hattach : attach? current o = some build) :
    applyOperator nested current o (.obj fields) =
        Logged.ofExcept (build <$> predicateArgument (.obj fields)) ∧
      (ReadAlike (predicateArgument (.obj fields)) (readPredicate (.obj fields)) ↔
        ∀ p, predicateArgument (.obj fields) = .ok p →
          ∃ q, readPredicate (.obj (passedOver fields)) = .ok q ∧
            ∀ c, p.holds c = true → q.holds c = true) := by
  refine ⟨applyOperator_attach hkey hattach, ?_⟩
  rw [predicateArgument_eq hkey]
  exact readAlike_iff hnodup

/-- A filter under `where` and two more beside it, for the columns taken from the front. -/
theorem attached_readAlike_iff_where :
    let fields : List (String × Json) := [("kind", .str "value"),
      ("where", .obj [("starts_with", .str "a")]), ("contains", .str "A"),
      ("ignore_case", .bool true)]
    let build : Predicate → Selection := fun p => .slice .all (.takeWhile p)
    (fields.map Prod.fst).Nodup ∧
      (∃ key ∈ predicateKeys, Entries.contains key fields = true) ∧
      attach? none .takeWhile = some build ∧
      applyOperator (compile true) none .takeWhile (.obj fields) =
        Logged.ofExcept (build <$> predicateArgument (.obj fields)) ∧
      (ReadAlike (predicateArgument (.obj fields)) (readPredicate (.obj fields)) ↔
        ∀ p, predicateArgument (.obj fields) = .ok p →
          ∃ q, readPredicate (.obj (passedOver fields)) = .ok q ∧
            ∀ c, p.holds c = true → q.holds c = true) := by
  intro fields build
  have hnodup : (fields.map Prod.fst).Nodup := by decide
  have hkey : ∃ key ∈ predicateKeys, Entries.contains key fields = true :=
    ⟨"where", by decide, rfl⟩
  have hattach : attach? none .takeWhile = some build := rfl
  exact ⟨hnodup, hkey, hattach, attached_readAlike_iff hnodup hkey hattach⟩

/-- Beside `predicate`, a kind is passed over: the filter lets a value column through that the
configuration does not ask for, and a kind that does not exist is no failure. -/
theorem exists_filter_passed_over :
    let config : Json → Json → Json := fun predicate kind =>
      .obj [("predicate", predicate), ("kind", kind)]
    let groups : Json := config (.obj [("starts_with", .str "a")]) (.str "group")
    let unknown : Json := config (.str "*") (.str "heap")
    let c : Column := Column.topValue "ab" ⟨.int, false⟩
    (∃ p q, (compile true ⟨[⟨"filter", groups⟩]⟩).outcome = .ok (.filter .all p) ∧
      readPredicate groups = .ok q ∧ p.holds c = true ∧ q.holds c = false) ∧
      (compile true ⟨[⟨"filter", unknown⟩]⟩).outcome = .ok (.filter .all .any) ∧
        ∃ e, readPredicate unknown = .error e := by
  intro config groups unknown c
  have hlookup : Operator.lookup "filter" = some ⟨.filter, false⟩ := by decide
  have hcompile : ∀ config, compile true ⟨[⟨"filter", config⟩]⟩ =
      applyOperator (compile true) none .filter config := fun _ => compile_singleton hlookup
  rw [hcompile, hcompile]
  refine ⟨⟨.nameStartsWith "a" false, .allOf [.nameStartsWith "a" false, .kindIn [.group]],
    rfl, rfl, ?_, ?_⟩, rfl, _, rfl⟩
  · decide
  · decide

end attach

end Program

end ColumnSelection
