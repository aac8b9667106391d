import ColumnSelection.Proofs.StepPredicates
import Mathlib.Logic.Relation

/-!
# The spelling of predicates

The order of keys and the keys that no filter is written under make no difference to a predicate,
at whatever depth. One such change keeps a value readable, and it keeps the columns of the
predicate and, one by one, those of the predicates that the value lists; so any number of changes
does.
-/
namespace ColumnSelection

namespace Entries

variable {α : Type} {key : String}

theorem get?_append (front back : List (String × α)) :
    get? key (front ++ back) = (get? key front).or (get? key back) := by
  induction front with
  | nil => rfl
  | cons e front ih =>
    obtain ⟨k, v⟩ := e
    by_cases hk : k = key <;> simp [get?, hk, ih]

/-- Among distinct keys, the value of a key does not depend on the order. -/
theorem get?_perm {entries entries' : List (String × α)} (hnodup : (entries.map Prod.fst).Nodup)
    (hperm : entries.Perm entries') : get? key entries = get? key entries' := by
  have hnodup' : (entries'.map Prod.fst).Nodup := (hperm.map Prod.fst).nodup_iff.mp hnodup
  cases hget : get? key entries with
  | some value => exact (get?_of_mem hnodup' (hperm.mem_iff.mp (mem_of_get? hget))).symm
  | none =>
    rw [get?_eq_none_iff] at hget
    exact (get?_eq_none_iff.mpr fun hmem => hget ((hperm.map Prod.fst).mem_iff.mpr hmem)).symm

end Entries

namespace Program

open Predicate

/-- One change in the spelling of a predicate: the keys of an object in another order, or one more
or one less entry under a key that says nothing about the predicate, at any depth. -/
inductive Respelling : Json → Json → Prop
  | reorder {fields fields' : List (String × Json)} : (fields.map Prod.fst).Nodup →
      fields.Perm fields' → Respelling (.obj fields) (.obj fields')
  | add {front back : List (String × Json)} {key : String} {j : Json} : key ∉ predicateKeys →
      key ≠ "ignore_case" → Respelling (.obj (front ++ back)) (.obj (front ++ (key, j) :: back))
  | remove {front back : List (String × Json)} {key : String} {j : Json} : key ∉ predicateKeys →
      key ≠ "ignore_case" → Respelling (.obj (front ++ (key, j) :: back)) (.obj (front ++ back))
  | item {front back : List Json} {j j' : Json} : Respelling j j' →
      Respelling (.arr (front ++ j :: back)) (.arr (front ++ j' :: back))
  | entry {front back : List (String × Json)} {key : String} {j j' : Json} : Respelling j j' →
      Respelling (.obj (front ++ (key, j) :: back)) (.obj (front ++ (key, j') :: back))

/-- Predicates of the same columns. -/
def SameColumns (p q : Predicate) : Prop :=
  ∀ c, p.holds c = q.holds c

section sameColumns

variable {ps qs : List Predicate}

theorem SameColumns.refl (p : Predicate) : SameColumns p p :=
  fun _ => rfl

theorem forall₂_sameColumns_refl (ps : List Predicate) : List.Forall₂ SameColumns ps ps :=
  List.forall₂_same.mpr fun p _ => .refl p

theorem forall₂_sameColumns_trans {rs : List Predicate} (h : List.Forall₂ SameColumns ps qs)
    (h' : List.Forall₂ SameColumns qs rs) : List.Forall₂ SameColumns ps rs := by
  induction h generalizing rs with
  | nil => exact h'
  | cons hpq _ ih =>
    cases h' with
    | cons hqr hrest => exact .cons (fun c => (hpq c).trans (hqr c)) (ih hrest)

theorem all_holds_eq (h : List.Forall₂ SameColumns ps qs) (c : Column) :
    ps.all (holds c) = qs.all (holds c) := by
  induction h with
  | nil => rfl
  | cons hpq _ ih => rw [List.all_cons, List.all_cons, hpq c, ih]

theorem any_holds_eq (h : List.Forall₂ SameColumns ps qs) (c : Column) :
    ps.any (holds c) = qs.any (holds c) := by
  induction h with
  | nil => rfl
  | cons hpq _ ih => rw [List.any_cons, List.any_cons, hpq c, ih]

theorem SameColumns.allOf (h : List.Forall₂ SameColumns ps qs) :
    SameColumns (.allOf ps) (.allOf qs) := by
  intro c
  simp [holds, all_holds_eq h c]

theorem SameColumns.anyOf (h : List.Forall₂ SameColumns ps qs) :
    SameColumns (.anyOf ps) (.anyOf qs) := by
  intro c
  simp [holds, any_holds_eq h c]

/-- A predicate asks for all of the predicates that its value lists. -/
theorem all_members (j : Json) (p : Predicate) (c : Column) :
    (members j p).all (holds c) = p.holds c := by
  unfold members
  split
  · exact (allHold_eq_all c _).symm
  · simp

end sameColumns

/-- The second value can be read as a predicate if the first can, and lists predicates of the same
columns. -/
def ReadsAs (v v' : Json) : Prop :=
  ∀ p, readPredicate v = .ok p →
    ∃ p', readPredicate v' = .ok p' ∧ List.Forall₂ SameColumns (members v p) (members v' p')

theorem sameColumns_of_members {v v' : Json} {p p' : Predicate}
    (h : List.Forall₂ SameColumns (members v p) (members v' p')) : SameColumns p p' := by
  intro c
  rw [← all_members v p c, all_holds_eq h c, all_members]

theorem readsAs_obj {fields fields' : List (String × Json)}
    (hcase : ignoreCase (.obj fields) = ignoreCase (.obj fields'))
    (h : ∀ ps, readFilters (ignoreCase (.obj fields)) fields = .ok ps →
      ∃ ps', readFilters (ignoreCase (.obj fields)) fields' = .ok ps' ∧
        ∀ c, ps.all (holds c) = ps'.all (holds c)) :
    ReadsAs (.obj fields) (.obj fields') := by
  intro p hp
  obtain ⟨ps, hps, rfl⟩ := readPredicate_obj_eq_ok.mp hp
  obtain ⟨ps', hps', hall⟩ := h ps hps
  rw [hcase] at hps'
  refine ⟨conjunction ps', readPredicate_obj_eq_ok.mpr ⟨ps', hps', rfl⟩, ?_⟩
  have hsame : SameColumns (conjunction ps) (conjunction ps') := by
    intro c
    rw [holds_conjunction, holds_conjunction, hall c]
  exact .cons hsame .nil

section changes

variable {v v' : Json}

theorem Respelling.symm (h : Respelling v v') : Respelling v' v := by
  induction h with
  | reorder hnodup hperm =>
    exact .reorder ((hperm.map Prod.fst).nodup_iff.mp hnodup) hperm.symm
  | add hkey hcase => exact .remove hkey hcase
  | remove hkey hcase => exact .add hkey hcase
  | item _ ih => exact .item ih
  | entry _ ih => exact .entry ih

/-- Only arrays and objects have another spelling, and neither is a name. -/
theorem Respelling.exists_nameOf_error (h : Respelling v v') : ∃ e, nameOf v = .error e := by
  cases h <;> exact ⟨_, rfl⟩

theorem Respelling.bool?_eq_none (h : Respelling v v') : v.bool? = none := by
  cases h <;> rfl

theorem Respelling.exists_namesOf_error (h : Respelling v v') : ∃ e, namesOf v = .error e := by
  cases h with
  | @item front back j _ hj =>
    obtain ⟨e, hname⟩ := hj.exists_nameOf_error
    cases hnames : namesOf (.arr (front ++ j :: back)) with
    | error e => exact ⟨e, rfl⟩
    | ok names =>
      obtain ⟨name, hok⟩ := exists_ok_of_mapM hnames j List.mem_append_cons_self
      rw [hname] at hok
      cases hok
  | _ => exact ⟨_, rfl⟩

theorem plainFilter?_isSome_eq (ignored : Bool) (key : String) (v v' : Json) :
    (plainFilter? ignored key v).isSome = (plainFilter? ignored key v').isSome := by
  unfold plainFilter?
  split <;> rfl

/-- A filter that holds no other predicate is written with names. -/
theorem Respelling.plainFilter?_eq_error (h : Respelling v v') {ignored : Bool} {key : String}
    {x : Except Failure Predicate} (hx : plainFilter? ignored key v = some x) :
    ∃ e, x = .error e := by
  obtain ⟨e, hname⟩ := h.exists_nameOf_error
  obtain ⟨e', hnames⟩ := h.exists_namesOf_error
  unfold plainFilter? at hx
  split at hx
  all_goals cases hx
  all_goals first
    | exact ⟨e, by rw [hname]; rfl⟩
    | exact ⟨e', by rw [hnames]; rfl⟩

/-- What a key with another predicate under it makes of the one read there. -/
def nestedFilter (key : String) (j : Json) (p : Predicate) : Predicate :=
  if key = "not" then .not p
  else if key = "all_of" then .allOf (members j p)
  else if key = "any_of" then .anyOf (members j p)
  else p

theorem sameColumns_nestedFilter {p p' : Predicate}
    (h : List.Forall₂ SameColumns (members v p) (members v' p')) (key : String) :
    SameColumns (nestedFilter key v p) (nestedFilter key v' p') := by
  have hsame : SameColumns p p' := sameColumns_of_members h
  unfold nestedFilter
  split_ifs
  · intro c
    simp [holds, hsame c]
  · exact .allOf h
  · exact .anyOf h
  · exact hsame

theorem readFilters_singleton_eq_ok {ignored : Bool} {key : String} {j : Json}
    {ps : List Predicate} (hplain : plainFilter? ignored key j = none) :
    readFilters ignored [(key, j)] = .ok ps ↔
      if key ∈ ["not", "all_of", "any_of", "predicate", "where"] then
        ∃ p, readPredicate j = .ok p ∧ ps = [nestedFilter key j p]
      else ps = [] := by
  rw [readFilters, hplain]
  by_cases hnot : key = "not"
  · subst hnot
    simp [readFilters, nestedFilter, pure, Except.pure, @eq_comm _ ps]
  by_cases hall : key = "all_of"
  · subst hall
    simp [readFilters, nestedFilter, pure, Except.pure, @eq_comm _ ps]
  by_cases hany : key = "any_of"
  · subst hany
    simp [readFilters, nestedFilter, pure, Except.pure, @eq_comm _ ps]
  by_cases hnested : key = "predicate" ∨ key = "where"
  · simp [readFilters, nestedFilter, hnot, hall, hany, hnested, pure, Except.pure,
      @eq_comm _ ps]
  · simp [readFilters, hnot, hall, hany, hnested, pure, Except.pure]

theorem readFilters_unknown {key : String} (hkey : key ∉ predicateKeys) (ignored : Bool)
    (j : Json) : readFilters ignored [(key, j)] = .ok [] := by
  simp only [predicateKeys, List.mem_cons, List.not_mem_nil, not_or] at hkey
  have hplain : plainFilter? ignored key j = none := by
    unfold plainFilter?
    split <;> simp_all
  rw [readFilters_singleton_eq_ok hplain, if_neg (by simp [hkey])]

theorem readFilters_singleton_readsAs (h : Respelling v v') (hread : ReadsAs v v') {ignored : Bool}
    {key : String} {ps : List Predicate} (hps : readFilters ignored [(key, v)] = .ok ps) :
    ∃ ps', readFilters ignored [(key, v')] = .ok ps' ∧ List.Forall₂ SameColumns ps ps' := by
  have hsome := plainFilter?_isSome_eq ignored key v v'
  cases hplain : plainFilter? ignored key v with
  | some x =>
    obtain ⟨e, rfl⟩ := h.plainFilter?_eq_error hplain
    rw [readFilters, hplain] at hps
    cases hps
  | none =>
    have hplain' : plainFilter? ignored key v' = none := by simpa [hplain] using hsome
    rw [readFilters_singleton_eq_ok hplain] at hps
    simp only [readFilters_singleton_eq_ok hplain']
    split_ifs at hps ⊢ with hkey
    · obtain ⟨p, hp, rfl⟩ := hps
      obtain ⟨p', hp', hmembers⟩ := hread p hp
      exact ⟨_, ⟨p', hp', rfl⟩, .cons (sameColumns_nestedFilter hmembers key) .nil⟩
    · subst hps
      exact ⟨[], rfl, .nil⟩

theorem ignoreCase_entry (h : Respelling v v') (front back : List (String × Json)) (key : String) :
    ignoreCase (.obj (front ++ (key, v) :: back)) =
      ignoreCase (.obj (front ++ (key, v') :: back)) := by
  simp only [ignoreCase, Json.get?, Entries.get?_append, Entries.get?]
  cases Entries.get? "ignore_case" front with
  | some j => rfl
  | none =>
    by_cases hkey : key = "ignore_case"
    · simp [hkey, h.bool?_eq_none, h.symm.bool?_eq_none]
    · simp [hkey]

theorem ignoreCase_insert {key : String} (hkey : key ≠ "ignore_case")
    (front back : List (String × Json)) (j : Json) :
    ignoreCase (.obj (front ++ (key, j) :: back)) = ignoreCase (.obj (front ++ back)) := by
  simp only [ignoreCase, Json.get?, Entries.get?_append, Entries.get?_cons_of_ne hkey]

theorem readFilters_insert {key : String} (hkey : key ∉ predicateKeys) (ignored : Bool)
    (front back : List (String × Json)) (j : Json) {ps : List Predicate} :
    readFilters ignored (front ++ (key, j) :: back) = .ok ps ↔
      readFilters ignored (front ++ back) = .ok ps := by
  simp [readFilters_append_eq_ok, readFilters_cons_eq_ok, readFilters_unknown hkey]

theorem readFilters_perm {ignored : Bool} {fields fields' : List (String × Json)}
    (h : fields.Perm fields') {ps : List Predicate} (hps : readFilters ignored fields = .ok ps) :
    ∃ ps', readFilters ignored fields' = .ok ps' ∧ ps.Perm ps' := by
  induction h generalizing ps with
  | nil => exact ⟨ps, hps, .refl ps⟩
  | cons e _ ih =>
    obtain ⟨here, more, hhere, hmore, rfl⟩ := readFilters_cons_eq_ok.mp hps
    obtain ⟨more', hmore', hperm⟩ := ih hmore
    exact ⟨here ++ more', readFilters_cons_eq_ok.mpr ⟨here, more', hhere, hmore', rfl⟩,
      hperm.append_left here⟩
  | swap e e' rest =>
    obtain ⟨here', _, hhere', hrest, rfl⟩ := readFilters_cons_eq_ok.mp hps
    obtain ⟨here, more, hhere, hmore, rfl⟩ := readFilters_cons_eq_ok.mp hrest
    have hswapped := readFilters_cons_eq_ok.mpr ⟨here', more, hhere', hmore, rfl⟩
    refine ⟨here ++ (here' ++ more),
      readFilters_cons_eq_ok.mpr ⟨here, here' ++ more, hhere, hswapped, rfl⟩, ?_⟩
    exact List.perm_append_comm_assoc ..
  | trans _ _ ih ih' =>
    obtain ⟨ps', hps', hperm⟩ := ih hps
    obtain ⟨ps'', hps'', hperm'⟩ := ih' hps'
    exact ⟨ps'', hps'', hperm.trans hperm'⟩

theorem readPredicates_item (hread : ReadsAs v v') {front back : List Json} {ps : List Predicate}
    (hps : readPredicates (front ++ v :: back) = .ok ps) :
    ∃ ps', readPredicates (front ++ v' :: back) = .ok ps' ∧ List.Forall₂ SameColumns ps ps' := by
  induction front generalizing ps with
  | nil =>
    simp only [List.nil_append, readPredicates, bind_eq_ok] at hps
    obtain ⟨p, hp, rest, hrest, ⟨⟩⟩ := hps
    obtain ⟨p', hp', hmembers⟩ := hread p hp
    refine ⟨p' :: rest, ?_, .cons (sameColumns_of_members hmembers) (forall₂_sameColumns_refl rest)⟩
    simp [readPredicates, hp', hrest, pure, Except.pure]
  | cons j front ih =>
    simp only [List.cons_append, readPredicates, bind_eq_ok] at hps
    obtain ⟨p, hp, rest, hrest, ⟨⟩⟩ := hps
    obtain ⟨rest', hrest', hsame⟩ := ih hrest
    refine ⟨p :: rest', ?_, .cons (.refl p) hsame⟩
    simp [readPredicates, hp, hrest', pure, Except.pure]

/-- One change of spelling: what could be read before can be read after it, with the same
columns. -/
theorem Respelling.readsAs (h : Respelling v v') : ReadsAs v v' := by
  induction h with
  | @reorder fields fields' hnodup hperm =>
    have hcase : ignoreCase (.obj fields) = ignoreCase (.obj fields') := by
      rw [ignoreCase, ignoreCase, Json.get?, Json.get?, Entries.get?_perm hnodup hperm]
    refine readsAs_obj hcase fun ps hps => ?_
    obtain ⟨ps', hps', hps''⟩ := readFilters_perm hperm hps
    exact ⟨ps', hps', fun c => hps''.all_eq⟩
  | @add front back key j hkey hcase =>
    refine readsAs_obj (ignoreCase_insert hcase front back j).symm fun ps hps => ?_
    exact ⟨ps, (readFilters_insert hkey _ front back j).mpr hps, fun c => rfl⟩
  | @remove front back key j hkey hcase =>
    refine readsAs_obj (ignoreCase_insert hcase front back j) fun ps hps => ?_
    exact ⟨ps, (readFilters_insert hkey _ front back j).mp hps, fun c => rfl⟩
  | item _ ih =>
    intro p hp
    simp only [readPredicate, bind_eq_ok] at hp
    obtain ⟨ps, hps, ⟨⟩⟩ := hp
    obtain ⟨ps', hps', hsame⟩ := readPredicates_item ih hps
    refine ⟨.allOf ps', ?_, hsame⟩
    simp [readPredicate, hps', pure, Except.pure]
  | @entry front back key j j' hj ih =>
    refine readsAs_obj (ignoreCase_entry hj front back key) fun ps hps => ?_
    obtain ⟨before, more, hbefore, hmore, rfl⟩ := readFilters_append_eq_ok.mp hps
    obtain ⟨here, after, hhere, hafter, rfl⟩ := readFilters_cons_eq_ok.mp hmore
    obtain ⟨here', hhere', hsame⟩ := readFilters_singleton_readsAs hj ih hhere
    refine ⟨before ++ (here' ++ after), ?_, fun c => ?_⟩
    · refine readFilters_append_eq_ok.mpr ⟨before, here' ++ after, hbefore, ?_, rfl⟩
      exact readFilters_cons_eq_ok.mpr ⟨here', after, hhere', hafter, rfl⟩
    · rw [List.all_append, List.all_append, List.all_append, List.all_append,
        all_holds_eq hsame c]

end changes

section runs

variable {v v' : Json}

theorem ReadsAs.refl (v : Json) : ReadsAs v v :=
  fun p hp => ⟨p, hp, forall₂_sameColumns_refl _⟩

theorem ReadsAs.trans {w : Json} (h : ReadsAs v v') (h' : ReadsAs v' w) : ReadsAs v w := by
  intro p hp
  obtain ⟨p', hp', hsame⟩ := h p hp
  obtain ⟨q, hq, hsame'⟩ := h' p' hp'
  exact ⟨q, hq, forall₂_sameColumns_trans hsame hsame'⟩

/-- Any number of changes of spelling keeps a predicate readable, with the same columns, and so does
undoing them. -/
theorem readsAs_of_reflTransGen (h : Relation.ReflTransGen Respelling v v') :
    ReadsAs v v' ∧ ReadsAs v' v := by
  induction h with
  | refl => exact ⟨.refl v, .refl v⟩
  | tail _ hstep ih => exact ⟨ih.1.trans hstep.readsAs, hstep.symm.readsAs.trans ih.2⟩

/-- A predicate in another spelling can be read exactly if it can be read as it is, and it is then a
predicate of the same columns. -/
theorem readPredicate_respelled (h : Relation.ReflTransGen Respelling v v') :
    ((∃ p, readPredicate v = .ok p) ↔ ∃ p', readPredicate v' = .ok p') ∧
      ∀ p p', readPredicate v = .ok p → readPredicate v' = .ok p' →
        ∀ c, p.holds c = p'.holds c := by
  obtain ⟨hforth, hback⟩ := readsAs_of_reflTransGen h
  constructor
  · constructor
    · rintro ⟨p, hp⟩
      obtain ⟨p', hp', -⟩ := hforth p hp
      exact ⟨p', hp'⟩
    · rintro ⟨p', hp'⟩
      obtain ⟨p, hp, -⟩ := hback p' hp'
      exact ⟨p, hp⟩
  · intro p p' hp hp'
    obtain ⟨q, hq, hsame⟩ := hforth p hp
    obtain rfl : q = p' := Except.ok.inj (hq.symm.trans hp')
    exact sameColumns_of_members hsame

/-- Keys in another order at two depths, an unknown key less at the top and one more below `not`.
The filters of the two predicates come in different orders. -/
theorem readPredicate_respelled_nested :
    let caseless : String × Json := ("ignore_case", .bool true)
    let letter : String × Json := ("contains", .str "A")
    let note : String × Json := ("note", .obj [("name", .null)])
    let why : String × Json := ("why", .null)
    let kind : String × Json := ("kind", .str "group")
    let name : String × Json := ("name", .str "x")
    let anyOf : List (String × Json) → String × Json := fun fields =>
      ("any_of", .arr [.str "y", .obj fields])
    let v : Json := .obj [caseless, letter, note, ("not", .obj [anyOf [kind, name]])]
    let v' : Json := .obj [("not", .obj [anyOf [name, kind], why]), letter, caseless]
    Relation.ReflTransGen Respelling v v' ∧
      ∃ p p', readPredicate v = .ok p ∧ readPredicate v' = .ok p' ∧
        ∀ c, p.holds c = p'.holds c := by
  intro caseless letter note why kind name anyOf v v'
  have hnote : Respelling
      (.obj ([caseless, letter] ++ note :: [("not", .obj [anyOf [kind, name]])]))
      (.obj ([caseless, letter] ++ [("not", .obj [anyOf [kind, name]])])) :=
    .remove (by decide) (by decide)
  have hwhy : Respelling (.obj ([anyOf [kind, name]] ++ []))
      (.obj ([anyOf [kind, name]] ++ why :: [])) :=
    .add (by decide) (by decide)
  have hitem : Respelling (.arr ([.str "y"] ++ .obj [kind, name] :: []))
      (.arr ([.str "y"] ++ .obj [name, kind] :: [])) :=
    .item (.reorder (by decide) (.swap name kind []))
  have hanyOf : Respelling (.obj ([] ++ anyOf [kind, name] :: [why]))
      (.obj ([] ++ anyOf [name, kind] :: [why])) :=
    .entry hitem
  have hnot : ∀ {j j' : Json}, Respelling j j' →
      Respelling (.obj ([caseless, letter] ++ ("not", j) :: []))
        (.obj ([caseless, letter] ++ ("not", j') :: [])) :=
    fun h => .entry h
  have horder : Respelling (.obj [caseless, letter, ("not", .obj [anyOf [name, kind], why])]) v' :=
    .reorder (by decide) (List.reverse_perm _).symm
  have hsteps : Relation.ReflTransGen Respelling v v' :=
    .head hnote (.head (hnot hwhy) (.head (hnot hanyOf) (.single horder)))
  exact ⟨hsteps, _, _, rfl, rfl, (readPredicate_respelled hsteps).2 _ _ rfl rfl⟩

end runs

end Program

end ColumnSelection
