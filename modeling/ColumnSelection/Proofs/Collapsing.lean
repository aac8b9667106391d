import ColumnSelection.Proofs.Excluding
import ColumnSelection.Proofs.Outcome
import ColumnSelection.Selection.Resolve

/-!
# Collapsing repetitions under exclusion

An exclusion ends by keeping the first column of every path. Since exclusion works on every column
by itself and keeps its path, repetitions can be removed before it, between its parts or only at
the end. Columns that are excluded anyway, and repetitions of columns already there, add nothing.
-/
namespace ColumnSelection

open Column

section distinct

variable {seen : List Path} {cs ds : List Column}

theorem distinctFrom_congr {seen' : List Path} (h : ∀ p, p ∈ seen ↔ p ∈ seen') :
    distinctFrom seen cs = distinctFrom seen' cs := by
  induction cs generalizing seen seen' with
  | nil => rfl
  | cons c rest ih =>
    have hrest : ∀ p, p ∈ c.path :: seen ↔ p ∈ c.path :: seen' := by
      intro p
      simp only [List.mem_cons, h p]
    rw [distinctFrom, distinctFrom, ih h, ih hrest]
    exact if_congr (h c.path) rfl rfl

theorem distinctFrom_eq_nil (h : ∀ c ∈ cs, c.path ∈ seen) : distinctFrom seen cs = [] := by
  induction cs with
  | nil => rfl
  | cons c rest ih =>
    rw [distinctFrom, if_pos (h c List.mem_cons_self)]
    exact ih fun d hd => h d (List.mem_cons_of_mem c hd)

/-- The second part of a list sees the paths of the first. -/
theorem distinctFrom_append :
    distinctFrom seen (cs ++ ds) =
      distinctFrom seen cs ++ distinctFrom (cs.map path ++ seen) ds := by
  induction cs generalizing seen with
  | nil => rfl
  | cons c rest ih =>
    rw [List.cons_append, distinctFrom, distinctFrom]
    by_cases hc : c.path ∈ seen
    · rw [if_pos hc, if_pos hc, ih]
      congr 1
      apply distinctFrom_congr
      intro p
      rw [List.map_cons, List.cons_append, List.mem_cons]
      constructor
      · intro hp
        exact .inr hp
      · rintro (rfl | hp)
        · exact List.mem_append_right _ hc
        · exact hp
    · rw [if_neg hc, if_neg hc, ih, List.cons_append]
      congr 2
      apply distinctFrom_congr
      intro p
      simp only [List.map_cons, List.mem_append, List.mem_cons]
      tauto

theorem mem_paths_distinctFrom {p : Path} :
    p ∈ (distinctFrom seen cs).map path ↔ p ∈ cs.map path ∧ p ∉ seen := by
  induction cs generalizing seen with
  | nil => simp [distinctFrom]
  | cons c rest ih =>
    rw [distinctFrom]
    split_ifs with hc
    · rw [ih, List.map_cons, List.mem_cons]
      constructor
      · rintro ⟨hp, hnew⟩
        exact ⟨.inr hp, hnew⟩
      · rintro ⟨rfl | hp, hnew⟩
        · exact absurd hc hnew
        · exact ⟨hp, hnew⟩
    · rw [List.map_cons, List.mem_cons, ih, List.map_cons, List.mem_cons, List.mem_cons]
      by_cases hp : p = c.path
      · simp [hp, hc]
      · simp [hp]

theorem mem_paths_distinct {p : Path} : p ∈ (distinct cs).map path ↔ p ∈ cs.map path := by
  rw [distinct, mem_paths_distinctFrom]
  simp

/-- Every path of the list is that of a column left. -/
theorem exists_mem_distinct {c : Column} (hc : c ∈ cs) : ∃ d ∈ distinct cs, d.path = c.path :=
  List.mem_map.mp (mem_paths_distinct.mpr (List.mem_map_of_mem hc))

theorem distinctFrom_cons_of_not_mem {p : Path} (h : p ∉ cs.map path) :
    distinctFrom (p :: seen) cs = distinctFrom seen cs := by
  induction cs generalizing seen with
  | nil => rfl
  | cons c rest ih =>
    rw [List.map_cons, List.mem_cons, not_or] at h
    have hc : c.path ∈ p :: seen ↔ c.path ∈ seen := by
      simp [Ne.symm h.1]
    have hswap :
        distinctFrom (c.path :: p :: seen) rest = distinctFrom (p :: c.path :: seen) rest := by
      apply distinctFrom_congr
      intro q
      simp only [List.mem_cons, or_left_comm]
    rw [distinctFrom, distinctFrom, hswap, ih h.2, ih h.2]
    exact if_congr hc rfl rfl

/-- Paths that have been seen before need not be looked for again. -/
theorem distinctFrom_distinctFrom {seen' : List Path} (h : seen' ⊆ seen) :
    distinctFrom seen (distinctFrom seen' cs) = distinctFrom seen cs := by
  induction cs generalizing seen seen' with
  | nil => rfl
  | cons c rest ih =>
    rw [distinctFrom, distinctFrom]
    split_ifs with hc' hc hc
    · exact ih h
    · exact absurd (h hc') hc
    · rw [distinctFrom, if_pos hc]
      apply ih
      intro p hp
      rcases List.mem_cons.mp hp with rfl | hp
      · exact hc
      · exact h hp
    · rw [distinctFrom, if_neg hc, ih (List.cons_subset_cons _ h)]

theorem distinct_distinct : distinct (distinct cs) = distinct cs :=
  distinctFrom_distinctFrom (List.Subset.refl [])

/-- Repetitions can be removed from the parts of a list before the whole. -/
theorem distinct_append_distinct :
    distinct (distinct cs ++ distinct ds) = distinct (cs ++ ds) := by
  have hseen : distinctFrom ((distinct cs).map path ++ []) ds =
      distinctFrom (cs.map path ++ []) ds := by
    apply distinctFrom_congr
    intro p
    simp only [List.append_nil, mem_paths_distinct]
  calc distinct (distinct cs ++ distinct ds)
      = distinct (distinct cs) ++ distinctFrom ((distinct cs).map path ++ []) (distinct ds) :=
        distinctFrom_append
    _ = distinct cs ++ distinctFrom ((distinct cs).map path ++ []) ds := by
        rw [distinct_distinct, distinct, distinct, distinctFrom_distinctFrom (List.nil_subset _)]
    _ = distinct (cs ++ ds) := by
        rw [hseen, distinct, distinct, distinctFrom_append]

/-- A step that keeps paths can be taken before or after repetitions are removed, where equal paths
mean equal columns. -/
theorem filterMap_distinctFrom {f : Column → Option Column}
    (hf : ∀ c d, f c = some d → d.path = c.path)
    (hcs : ∀ c ∈ cs, ∀ d ∈ cs, c.path = d.path → c = d) :
    (distinctFrom seen cs).filterMap f = distinctFrom seen (cs.filterMap f) := by
  induction cs generalizing seen with
  | nil => rfl
  | cons c rest ih =>
    have hrest : ∀ d ∈ rest, ∀ e ∈ rest, d.path = e.path → d = e := fun d hd e he =>
      hcs d (List.mem_cons_of_mem c hd) e (List.mem_cons_of_mem c he)
    rw [distinctFrom]
    cases hfc : f c with
    | some d =>
      rw [List.filterMap_cons_some hfc, distinctFrom, hf c d hfc]
      split_ifs with hc
      · exact ih hrest
      · rw [List.filterMap_cons_some hfc, ih hrest]
    | none =>
      rw [List.filterMap_cons_none hfc]
      split_ifs with hc
      · exact ih hrest
      · -- The column is left out with all its repetitions, so its path is not seen later.
        have hgone : c.path ∉ (rest.filterMap f).map path := by
          intro hmem
          obtain ⟨d, hd, hpath⟩ := List.mem_map.mp hmem
          obtain ⟨e, he, hed⟩ := List.mem_filterMap.mp hd
          have hce : c = e := hcs c List.mem_cons_self e (List.mem_cons_of_mem c he)
            (hpath.symm.trans (hf e d hed))
          rw [← hce, hfc] at hed
          cases hed
        rw [List.filterMap_cons_none hfc, ih hrest, distinctFrom_cons_of_not_mem hgone]

end distinct

section exclusion

variable {paths : List Path} {cs ds : List Column}

theorem exceptColumns_append_columns :
    exceptColumns (cs ++ ds) paths = exceptColumns cs paths ++ exceptColumns ds paths :=
  excludeAll_append_columns cs ds

/-- Repetitions can be removed before an exclusion, where equal paths mean equal columns. -/
theorem distinct_exceptColumns_distinct (h : ∀ c ∈ cs, ∀ d ∈ cs, c.path = d.path → c = d) :
    distinct (exceptColumns (distinct cs) paths) = distinct (exceptColumns cs paths) := by
  unfold exceptColumns
  rw [excludeAll_eq_filterMap, excludeAll_eq_filterMap, distinct, distinct,
    filterMap_distinctFrom (fun c d hcd => (prunes_of_exclude? hcd).path_eq) h]
  exact distinct_distinct

theorem exceptColumns_insert {front back : List Column} {c : Column} (hc : c.path ∈ paths) :
    exceptColumns (front ++ c :: back) paths = exceptColumns (front ++ back) paths := by
  have hsingle : exceptColumns [c] paths = [] := by
    rw [exceptColumns, excludeAll_singleton, exclude?_eq_none_of_mem hc]
    rfl
  rw [← List.singleton_append, exceptColumns_append_columns, exceptColumns_append_columns, hsingle,
    exceptColumns_append_columns, List.nil_append]

theorem distinct_exceptColumns_concat {c : Column} (hc : c ∈ cs) :
    distinct (exceptColumns (cs ++ [c]) paths) = distinct (exceptColumns cs paths) := by
  have hseen : ∀ d ∈ exceptColumns [c] paths, d.path ∈ (exceptColumns cs paths).map path ++ [] := by
    intro d hd
    have hmem : d ∈ exceptColumns cs paths := by
      rw [exceptColumns, excludeAll_eq_flatMap]
      exact List.mem_flatMap.mpr ⟨c, hc, hd⟩
    exact List.mem_append_left _ (List.mem_map_of_mem hmem)
  rw [exceptColumns_append_columns, distinct, distinctFrom_append, distinctFrom_eq_nil hseen,
    List.append_nil]
  rfl

/-- A list with columns of excluded paths put in anywhere, and with columns already there repeated
at the end, in any number of steps. -/
inductive Padded (paths : List Path) (cs : List Column) : List Column → Prop
  | refl : Padded paths cs cs
  | insert {front back c} : Padded paths cs (front ++ back) → c.path ∈ paths →
      Padded paths cs (front ++ c :: back)
  | again {ds c} : Padded paths cs ds → c ∈ ds → Padded paths cs (ds ++ [c])

theorem Padded.distinct_exceptColumns (h : Padded paths cs ds) :
    distinct (exceptColumns ds paths) = distinct (exceptColumns cs paths) := by
  induction h with
  | refl => rfl
  | insert _ hc ih => rw [exceptColumns_insert hc, ih]
  | again _ hc ih => rw [distinct_exceptColumns_concat hc, ih]

end exclusion

namespace Selection

variable {s : Scope} {A B X S : Selection} {as bs xs cs : List Column}

theorem outcome_resolve_and (hA : (A.resolve s).outcome = .ok as)
    (hB : (B.resolve s).outcome = .ok bs) :
    ((Selection.and A B).resolve s).outcome = .ok (as ++ bs) := by
  rw [resolve]
  exact Logged.outcome_bind_eq_ok.mpr ⟨as, hA, Logged.outcome_bind_eq_ok.mpr ⟨bs, hB, rfl⟩⟩

theorem outcome_resolve_distinct (hS : (S.resolve s).outcome = .ok cs) :
    ((Selection.distinct S).resolve s).outcome = .ok (ColumnSelection.distinct cs) := by
  rw [resolve]
  exact Logged.outcome_bind_eq_ok.mpr ⟨cs, hS, rfl⟩

theorem outcome_resolve_except (hS : (S.resolve s).outcome = .ok cs)
    (hX : (X.resolve s).outcome = .ok xs) :
    ((Selection.except S X).resolve s).outcome =
      .ok (ColumnSelection.distinct (exceptColumns cs (xs.map path))) := by
  rw [resolve]
  exact Logged.outcome_bind_eq_ok.mpr ⟨cs, hS, Logged.outcome_bind_eq_ok.mpr ⟨xs, hX, rfl⟩⟩

/-- An exclusion from two selections is made of the exclusions from each. It does not matter
whether repetitions have been removed before, where equal paths mean equal columns, nor whether
the source has further columns of excluded paths or repetitions at its end. -/
theorem except_collapses (hX : (X.resolve s).outcome = .ok xs) :
    (∀ A B as bs, (A.resolve s).outcome = .ok as → (B.resolve s).outcome = .ok bs →
      ∃ out, ((Selection.except (.and A B) X).resolve s).outcome = .ok out ∧
        ((Selection.distinct (.and (.except A X) (.except B X))).resolve s).outcome = .ok out) ∧
    ∀ S cs, (S.resolve s).outcome = .ok cs →
      ∃ out, ((Selection.except S X).resolve s).outcome = .ok out ∧
        ((∀ c ∈ cs, ∀ d ∈ cs, c.path = d.path → c = d) →
          ((Selection.except (.distinct S) X).resolve s).outcome = .ok out) ∧
        ∀ S' ds, Padded (xs.map path) cs ds → (S'.resolve s).outcome = .ok ds →
          ((Selection.except S' X).resolve s).outcome = .ok out := by
  constructor
  · intro A B as bs hA hB
    have hparts := outcome_resolve_and (outcome_resolve_except hA hX) (outcome_resolve_except hB hX)
    refine ⟨_, outcome_resolve_except (outcome_resolve_and hA hB) hX, ?_⟩
    rw [outcome_resolve_distinct hparts, distinct_append_distinct, exceptColumns_append_columns]
  · intro S cs hS
    refine ⟨_, outcome_resolve_except hS hX, ?_, ?_⟩
    · intro hcs
      rw [outcome_resolve_except (outcome_resolve_distinct hS) hX,
        distinct_exceptColumns_distinct hcs]
    · intro S' ds hpad hS'
      rw [outcome_resolve_except hS' hX, hpad.distinct_exceptColumns]

/-- A group without one of its children comes out of references to the group and the child, each
made twice, as it does out of a single reference to the group. -/
theorem except_collapses_repeated :
    let age := Column.value ⟨"age", ⟨["g", "age"]⟩, none⟩ ⟨.int, false⟩
    let g := Column.group ⟨"g", ⟨["g"]⟩, none⟩ [age, .value ⟨"n", ⟨["g", "n"]⟩, none⟩ ⟨.any, true⟩]
    let s : Scope := { tree := ⟨[g, topValue "a" ⟨.int, true⟩]⟩ }
    let X := Selection.columns [.path ⟨["g", "age"]⟩]
    let S := Selection.columns [.path ⟨["g"]⟩]
    let S' := Selection.columns [.name "g", .name "g", .path ⟨["g", "age"]⟩, .name "g.age"]
    (S.resolve s).outcome = .ok [g] ∧ (S'.resolve s).outcome = .ok [g, g, age, age] ∧
      (X.resolve s).outcome = .ok [age] ∧ Padded ([age].map path) [g] [g, g, age, age] ∧
      (∃ out, ((Selection.except (.and S S') X).resolve s).outcome = .ok out ∧
        ((Selection.distinct (.and (.except S X) (.except S' X))).resolve s).outcome = .ok out) ∧
      ∃ out, ((Selection.except S X).resolve s).outcome = .ok out ∧
        ((Selection.except (.distinct S) X).resolve s).outcome = .ok out ∧
        ((Selection.except S' X).resolve s).outcome = .ok out := by
  intro age g s X S S'
  have hS : (S.resolve s).outcome = .ok [g] := rfl
  have hS' : (S'.resolve s).outcome = .ok [g, g, age, age] := rfl
  have hX : (X.resolve s).outcome = .ok [age] := rfl
  have hage : age.path ∈ [age].map path := List.mem_cons_self
  have hpad : Padded ([age].map path) [g] [g, g, age, age] := by
    have htwice : Padded ([age].map path) [g] ([g] ++ [g]) := Padded.refl.again List.mem_cons_self
    have honce : Padded ([age].map path) [g] ([g, g] ++ age :: []) := .insert htwice hage
    exact .insert honce hage
  obtain ⟨hand, hcollapse⟩ := except_collapses hX
  obtain ⟨out, hout, hdistinct, hpadded⟩ := hcollapse S [g] hS
  refine ⟨hS, hS', hX, hpad, hand S S' _ _ hS hS', out, hout, hdistinct ?_, hpadded S' _ hpad hS'⟩
  simp

end Selection

end ColumnSelection
