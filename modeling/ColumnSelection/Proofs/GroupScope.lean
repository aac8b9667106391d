import ColumnSelection.Failure.Codec
import ColumnSelection.Proofs.Referencing
import ColumnSelection.Proofs.Resolution

/-!
# Selections inside a group

Looking names up inside a group and following their absolute paths from outside come to the same
columns, or to failures of the same category: when the group is missing, is a leaf or is empty, and
when a reference stops half way down. So do leaving columns out inside a group and rebuilding the
group from outside.
-/
namespace ColumnSelection

open Column

namespace Logged

universe u

variable {α β : Type u}

/-- The result, or the category of the failure. -/
def verdict (x : Logged α) : Except String α :=
  x.outcome.mapError Failure.category

theorem verdict_of_ok {x : Logged α} {a : α} (h : x.outcome = .ok a) : x.verdict = .ok a := by
  rw [verdict, h]
  rfl

theorem verdict_of_error {x : Logged α} {e : Failure} (h : x.outcome = .error e) :
    x.verdict = .error e.category := by
  rw [verdict, h]
  rfl

theorem verdict_bind (x : Logged α) (f : α → Logged β) :
    (x >>= f).verdict = x.verdict >>= fun a => (f a).verdict := by
  obtain ⟨outcome, notices⟩ := x
  cases outcome <;> rfl

variable {f g : α → Logged (List β)} {xs : List α}

theorem collect_map {γ : Type u} (h : γ → α) (zs : List γ) :
    collect f (zs.map h) = collect (fun z => f (h z)) zs := by
  induction zs with
  | nil => rfl
  | cons z rest ih => rw [List.map_cons, collect, collect, ih]

theorem verdict_collect_cons (x : α) :
    (collect f (x :: xs)).verdict = (f x).verdict >>= fun front =>
      (collect f xs).verdict >>= fun back => .ok (front ++ back) := by
  rw [collect, verdict_bind]
  congr 1
  funext front
  rw [verdict_bind]
  rfl

theorem verdict_collect_singleton (x : α) : (collect f [x]).verdict = (f x).verdict := by
  rw [verdict_collect_cons]
  cases (f x).verdict with
  | error e => rfl
  | ok ys => exact congrArg Except.ok (List.append_nil ys)

theorem verdict_collect_congr (h : ∀ x ∈ xs, (f x).verdict = (g x).verdict) :
    (collect f xs).verdict = (collect g xs).verdict := by
  induction xs with
  | nil => rfl
  | cons x rest ih =>
    rw [verdict_collect_cons, verdict_collect_cons, h x List.mem_cons_self,
      ih fun y hy => h y (List.mem_cons_of_mem x hy)]

theorem verdict_collect_of_error {e : String} (hxs : xs ≠ [])
    (h : ∀ x ∈ xs, (f x).verdict = .error e) : (collect f xs).verdict = .error e := by
  cases xs with
  | nil => exact absurd rfl hxs
  | cons x rest =>
    rw [verdict_collect_cons, h x List.mem_cons_self]
    rfl

theorem verdict_collect_of_nil (h : ∀ x ∈ xs, (f x).verdict = .ok []) :
    (collect f xs).verdict = .ok [] := by
  induction xs with
  | nil => rfl
  | cons x rest ih =>
    rw [verdict_collect_cons, h x List.mem_cons_self,
      ih fun y hy => h y (List.mem_cons_of_mem x hy)]
    rfl

end Logged

namespace Scope

variable {s s' : Scope}

theorem verdict_unresolved (h : s.settings = s'.settings) (name name' : String)
    (place place' : Path) :
    (s.unresolved name place).verdict = (s'.unresolved name' place').verdict := by
  unfold unresolved
  rw [h]
  cases s'.settings.unresolved <;> rfl

/-- A reference without a column comes to a failure or to no columns, so nothing follows. -/
theorem verdict_unresolved_bind (name : String) (place : Path)
    (f : Column → Logged (List Column)) :
    ((s.unresolved name place).verdict >>= fun cs => (Logged.collect f cs).verdict) =
      (s.unresolved name place).verdict := by
  unfold unresolved
  cases s.settings.unresolved <;> rfl

/-- What names lead to depends on the columns that the walk begins with and on the policy; the path
that failures speak of does not change their category. -/
theorem verdict_walk_congr (h : s.settings = s'.settings) {reached : Option Column}
    (hcolumns : reached = none → s.columns = s'.columns) (whole whole' : Path)
    (names : List String) :
    (s.walk whole reached names).verdict = (s'.walk whole' reached names).verdict := by
  induction names generalizing reached with
  | nil => rfl
  | cons n rest ih =>
    cases reached with
    | none =>
      rw [walk, walk, hcolumns rfl]
      cases s'.columns.find? (·.name == n) with
      | none => exact verdict_unresolved h _ _ _ _
      | some c => exact ih (by simp)
    | some parent =>
      rw [walk, walk]
      split_ifs
      · cases parent.child? n with
        | none => exact verdict_unresolved h _ _ _ _
        | some c => exact ih (by simp)
      · rfl

/-- Where one name leads from the scope, or from a column already reached. -/
inductive Step (s : Scope) (reached : Option Column) (n : String) : Prop
  /-- To a column, from which the walk goes on. -/
  | found (c : Column) :
      (∀ whole rest, s.walk whole reached (n :: rest) = s.walk whole (some c) rest) →
        Step s reached n
  | missing (place : Path) :
      (∀ whole rest, s.walk whole reached (n :: rest) = s.unresolved whole.text place) →
        Step s reached n
  /-- Nowhere, since a leaf has been reached. -/
  | refused (e : Failure) : (∀ whole rest, s.walk whole reached (n :: rest) = .fail e) →
      Step s reached n

theorem step (s : Scope) (reached : Option Column) (n : String) : s.Step reached n := by
  cases reached with
  | none =>
    cases hf : s.columns.find? (·.name == n) with
    | none => exact .missing s.path fun whole rest => by rw [walk, hf]
    | some c => exact .found c fun whole rest => by rw [walk, hf]
  | some parent =>
    by_cases hgroup : parent.isGroup
    · cases hf : parent.child? n with
      | none => exact .missing parent.path fun whole rest => by rw [walk, if_pos hgroup, hf]
      | some c => exact .found c fun whole rest => by rw [walk, if_pos hgroup, hf]
    · exact .refused _ fun whole rest => by rw [walk, if_neg hgroup]

/-- Further names are followed from the column that the first ones lead to. -/
theorem verdict_walk_append {reached : Option Column} {names : List String}
    (hne : reached = none → names ≠ []) (whole : Path) (more : List String) :
    (s.walk whole reached (names ++ more)).verdict =
      (s.walk whole reached names).verdict >>= fun cs =>
        (Logged.collect (fun c => s.walk whole (some c) more) cs).verdict := by
  induction names generalizing reached with
  | nil =>
    cases reached with
    | none => exact absurd rfl (hne rfl)
    | some c =>
      have hone : (s.walk whole (some c) []).verdict = .ok [c] := rfl
      rw [hone, List.nil_append]
      exact (Logged.verdict_collect_singleton (f := fun c => s.walk whole (some c) more) c).symm
  | cons n rest ih =>
    rw [List.cons_append]
    cases s.step reached n with
    | found c hwalk =>
      rw [hwalk, hwalk]
      exact ih (by simp)
    | missing place hwalk =>
      rw [hwalk, hwalk]
      exact (verdict_unresolved_bind _ _ _).symm
    | refused e hwalk =>
      rw [hwalk, hwalk]
      rfl

/-- Going on from a column is looking up inside it, which a leaf refuses. -/
theorem verdict_walk_some (c : Column) (whole whole' : Path) {names : List String}
    (hne : names ≠ []) :
    (s.walk whole (some c) names).verdict =
      (Logged.ofExcept (s.descend c) >>= fun below => below.walk whole' none names).verdict := by
  obtain ⟨n, rest, rfl⟩ := List.exists_cons_of_ne_nil hne
  rw [Logged.verdict_bind, walk, descend]
  split_ifs
  · change _ = (walk { s with group := some c } whole' none (n :: rest)).verdict
    have hcolumns : columns { s with group := some c } = c.children := rfl
    rw [walk, hcolumns, child?]
    cases c.children.find? (·.name == n) with
    | none => exact verdict_unresolved rfl _ _ _ _
    | some d =>
      apply verdict_walk_congr
      · rfl
      · simp
  · rfl

theorem atPath_of_ne_root {p : Path} (hp : p ≠ .root) : s.atPath p = s.walk p none p.segments := by
  have hroot : ¬ p.isRoot := by
    intro h
    exact hp (Path.ext (List.isEmpty_iff.mp h))
  exact if_neg hroot

/-- A path is followed by entering what its first part leads to and looking up the rest there. -/
theorem verdict_atPath_append {g p : Path} (hg : g ≠ .root) (hp : p ≠ .root) :
    (s.atPath (g ++ p)).verdict =
      (s.atPath g >>= Logged.collect fun c => do
        let below ← Logged.ofExcept (s.descend c)
        below.atPath p).verdict := by
  have hgs : g.segments ≠ [] := fun h => hg (Path.ext h)
  have hps : p.segments ≠ [] := fun h => hp (Path.ext h)
  have happend : g ++ p ≠ .root := by
    intro h
    exact hgs (List.append_eq_nil_iff.mp (congrArg Path.segments h)).1
  have hwhole : (s.walk (g ++ p) none g.segments).verdict = (s.walk g none g.segments).verdict := by
    apply verdict_walk_congr
    · rfl
    · simp
  rw [atPath_of_ne_root happend, Path.segments_append, verdict_walk_append (fun _ => hgs), hwhole,
    Logged.verdict_bind, atPath_of_ne_root hg]
  congr 1
  funext cs
  apply Logged.verdict_collect_congr
  intro c _
  simp only [atPath_of_ne_root hp]
  exact verdict_walk_some c _ p hps

theorem eq_nil_or_singleton_of_walk {whole : Path} {reached : Option Column} {names : List String}
    {cs : List Column} (h : (s.walk whole reached names).outcome = .ok cs) :
    cs = [] ∨ ∃ c, cs = [c] := by
  induction names generalizing reached with
  | nil =>
    cases h
    cases reached with
    | none => exact .inl rfl
    | some c => exact .inr ⟨c, rfl⟩
  | cons n rest ih =>
    cases s.step reached n with
    | found c hwalk =>
      rw [hwalk] at h
      exact ih h
    | missing place hwalk =>
      rw [hwalk] at h
      exact .inl (unresolved_eq_ok h)
    | refused e hwalk =>
      rw [hwalk] at h
      cases h

theorem eq_nil_or_singleton_of_atPath {p : Path} {cs : List Column}
    (h : (s.atPath p).outcome = .ok cs) : cs = [] ∨ ∃ c, cs = [c] := by
  rw [atPath] at h
  split_ifs at h
  · cases h
  · exact eq_nil_or_singleton_of_walk h

end Scope

namespace Column

/-- A column strictly below a path, in its place and with distinct names of siblings below it. -/
structure Below (p : Path) (c : Column) : Prop where
  anchored : c.Anchored
  names : c.NamesDistinct
  ancestor : p.isAncestorOf c.path

variable {p : Path} {c : Column}

theorem below_of_placed (h : c.path = p.child c.name ∧ c.Anchored) (hnames : c.NamesDistinct) :
    c.Below p := by
  refine ⟨h.2, hnames, ?_⟩
  rw [h.1]
  exact Path.isAncestorOf_of_child (Path.startsWith_self _)

theorem Below.child (h : c.Below p) {d : Column} (hd : d ∈ c.children) : d.Below c.path :=
  below_of_placed (h.anchored.children d hd) ((siblingsDistinct_iff.mp h.names.children).2 d hd)

theorem hereditary_below (p : Path) : Hereditary (Below p) where
  child := by
    intro c d hc hd
    have hdc := hc.child hd
    refine ⟨hdc.anchored, hdc.names, ?_⟩
    obtain ⟨n, r, hseg⟩ := (Path.isAncestorOf_iff _ _).mp hc.ancestor
    obtain ⟨m, q, hseg'⟩ := (Path.isAncestorOf_iff _ _).mp hdc.ancestor
    exact (Path.isAncestorOf_iff _ _).mpr ⟨n, r ++ m :: q, by simp [hseg, hseg']⟩
  prune := by
    intro c d hc hd
    exact ⟨hc.anchored.prune hd, hc.names.prune hd, hd.path_eq ▸ hc.ancestor⟩
  named := by
    intro c shown hc
    refine ⟨?_, ?_, by rw [path_named]; exact hc.ancestor⟩
    · cases c <;> exact hc.anchored
    · cases c <;> exact hc.names

theorem Below.nodup_paths_children (h : c.Below p) : (c.children.map path).Nodup :=
  nodup_paths_of_names (fun d hd => (h.anchored.children d hd).1)
    (siblingsDistinct_iff.mp h.names.children).1

/-- What exclusion leaves of columns with distinct paths has nothing to remove. -/
theorem distinct_exceptColumns_of_nodup {cs : List Column} (h : (cs.map path).Nodup)
    (E : List Path) : distinct (exceptColumns cs E) = exceptColumns cs E := by
  have hsub : ((exceptColumns cs E).map path).Sublist (cs.map path) :=
    (excludeAll_prunesAll E cs).map_sublist fun _ _ hdc => hdc.path_eq
  exact distinctFrom_eq_self (hsub.nodup h) (by simp)

/-- The children of what exclusion leaves of a column are what it leaves of the children, also when
nothing is left of them and the column is dropped. -/
theorem flatMap_children_exceptColumns {E : List Path} (h : c.Anchored)
    (hc : c.path ∉ E) : (exceptColumns [c] E).flatMap children = exceptColumns c.children E := by
  unfold exceptColumns
  rw [excludeAll_singleton]
  cases hd : exclude? E c with
  | some d => simp [children_of_exclude? h hd]
  | none =>
    cases c with
    | value l t => rw [exclude?_leaf rfl hc] at hd; cases hd
    | frame l s => rw [exclude?_leaf rfl hc] at hd; cases hd
    | group l cs =>
      rcases eq_or_ne cs [] with rfl | hcs
      · rfl
      · rw [path_group] at hc
        rw [exclude?_group h hcs, if_neg hc] at hd
        rw [children_group]
        cases hrest : excludeAll E cs with
        | nil => rfl
        | cons b rest => rw [hrest] at hd; cases hd

/-- Exclusion below a column comes to the same from inside it and from outside. -/
theorem Below.distinct_exceptColumns_children {E : List Path} (h : c.Below p)
    (hE : ∀ q ∈ E, c.path.isAncestorOf q) :
    distinct (exceptColumns c.children E) =
      (distinct (exceptColumns [c] E)).flatMap children := by
  have hc : c.path ∉ E := by
    intro hmem
    exact (Path.isAncestorOf_iff_ne.mp (hE _ hmem)).2 rfl
  have hsingle : ([c].map path).Nodup := List.nodup_singleton _
  rw [distinct_exceptColumns_of_nodup h.nodup_paths_children,
    distinct_exceptColumns_of_nodup hsingle, flatMap_children_exceptColumns h.anchored hc]

end Column

namespace Selection

variable {s : Scope} {g : Path}

/-- The ways of entering the group at a path, with what each makes of the selections inside. -/
inductive Enters (s : Scope) (g : Path) : Prop
  /-- The walk to the group fails. -/
  | fails (e : String) : (s.atPath g).verdict = .error e →
      (∀ inner, ((within (.path g) inner).resolve s).verdict = .error e) → Enters s g
  /-- There is no such column, and the policy skips it. -/
  | skips : (s.atPath g).verdict = .ok [] →
      (∀ inner, ((within (.path g) inner).resolve s).verdict = .ok []) → Enters s g
  /-- There is a leaf. -/
  | refuses (c : Column) (e : String) : (s.atPath g).outcome = .ok [c] →
      (∀ inner, ((within (.path g) inner).resolve s).verdict = .error e) → Enters s g
  | enters (c : Column) : (s.atPath g).outcome = .ok [c] →
      (∀ inner, ((within (.path g) inner).resolve s).verdict =
        (inner.resolve { s with group := some c }).verdict) → Enters s g

theorem verdict_within (inner : Selection) :
    ((within (.path g) inner).resolve s).verdict =
      (s.atPath g).verdict >>= fun cs => (Logged.collect (fun c => do
        let below ← Logged.ofExcept (s.descend c)
        inner.resolve below) cs).verdict := by
  rw [resolve, Logged.verdict_bind]
  rfl

theorem enters_path (s : Scope) (g : Path) : Enters s g := by
  have hsingle : ∀ c, (s.atPath g).outcome = .ok [c] → ∀ inner : Selection,
      ((within (.path g) inner).resolve s).verdict =
        (Logged.ofExcept (s.descend c) >>= fun below => inner.resolve below).verdict := by
    intro c hc inner
    rw [verdict_within, Logged.verdict_of_ok hc]
    exact Logged.verdict_collect_singleton (f := fun c => do
      let below ← Logged.ofExcept (s.descend c)
      inner.resolve below) c
  cases hpath : (s.atPath g).outcome with
  | error e =>
    have hverdict := Logged.verdict_of_error hpath
    refine .fails e.category hverdict fun inner => ?_
    rw [verdict_within, hverdict]
    rfl
  | ok cs =>
    have hverdict := Logged.verdict_of_ok hpath
    rcases Scope.eq_nil_or_singleton_of_atPath hpath with rfl | ⟨c, rfl⟩
    · refine .skips hverdict fun inner => ?_
      rw [verdict_within, hverdict]
      rfl
    · by_cases hgroup : c.isGroup
      · refine .enters c hpath fun inner => ?_
        rw [hsingle c hpath, Scope.descend, if_pos hgroup]
        rfl
      · refine .refuses c (Failure.notAGroup c.path.text).category hpath fun inner => ?_
        rw [hsingle c hpath, Scope.descend, if_neg hgroup]
        rfl

theorem verdict_columns_paths (s : Scope) (P : List Path) :
    ((columns (P.map .path)).resolve s).verdict = (Logged.collect s.atPath P).verdict := by
  rw [resolve, Logged.collect_map]
  rfl

theorem verdict_columns_path (s : Scope) (p : Path) :
    ((columns [.path p]).resolve s).verdict = (s.atPath p).verdict :=
  (verdict_columns_paths s [p]).trans (Logged.verdict_collect_singleton p)

/-- References inside a group come to what references by the absolute paths come to. -/
theorem verdict_within_columns {P : List Path} (hg : g ≠ .root) (hP : P ≠ [])
    (hp : ∀ p ∈ P, p ≠ .root) :
    ((within (.path g) (.columns (P.map .path))).resolve s).verdict =
      ((columns (P.map fun p => .path (g ++ p))).resolve s).verdict := by
  have habsolute : ((columns (P.map fun p => .path (g ++ p))).resolve s).verdict =
      (Logged.collect (fun p => s.atPath (g ++ p)) P).verdict := by
    rw [resolve, Logged.collect_map]
    rfl
  have hone : ∀ p ∈ P, (s.atPath (g ++ p)).verdict =
      ((within (.path g) (.columns [.path p])).resolve s).verdict := by
    intro p hmem
    rw [Scope.verdict_atPath_append hg (hp p hmem), verdict_within, Logged.verdict_bind]
    congr 1
    funext cs
    apply Logged.verdict_collect_congr
    intro c _
    rw [Logged.verdict_bind, Logged.verdict_bind]
    congr 1
    funext below
    exact (verdict_columns_path below p).symm
  rw [habsolute]
  cases enters_path s g with
  | fails e _ hwithin =>
    rw [hwithin, Logged.verdict_collect_of_error hP fun p hmem => (hone p hmem).trans (hwithin _)]
  | skips _ hwithin =>
    rw [hwithin, Logged.verdict_collect_of_nil fun p hmem => (hone p hmem).trans (hwithin _)]
  | refuses c e _ hwithin =>
    rw [hwithin, Logged.verdict_collect_of_error hP fun p hmem => (hone p hmem).trans (hwithin _)]
  | enters c _ hwithin =>
    rw [hwithin, verdict_columns_paths]
    apply Logged.verdict_collect_congr
    intro p hmem
    rw [hone p hmem, hwithin, verdict_columns_path]

theorem verdict_except (S X : Selection) :
    ((except S X).resolve s).verdict =
      (S.resolve s).verdict >>= fun cs => (X.resolve s).verdict >>= fun xs =>
        .ok (ColumnSelection.distinct (exceptColumns cs (xs.map path))) := by
  rw [resolve, Logged.verdict_bind]
  congr 1
  funext cs
  rw [Logged.verdict_bind]
  rfl

theorem verdict_groupChildren (S : Selection) :
    ((groupChildren S).resolve s).verdict =
      (S.resolve s).verdict >>= fun cs => .ok (cs.flatMap children) := by
  rw [resolve, Logged.verdict_bind]
  rfl

/-- Leaving columns out inside a group comes to the children of what is left of the group when they
are left out by their absolute paths. -/
theorem verdict_groupExcept {P : List Path} (hs : ∀ c ∈ s.columns, c.Below .root)
    (hg : g ≠ .root) (hP : P ≠ []) (hp : ∀ p ∈ P, p ≠ .root) :
    ((groupExcept (.path g) (.columns (P.map .path))).resolve s).verdict =
      ((groupChildren (.except (.columns [.path g])
        (.columns (P.map fun p => .path (g ++ p))))).resolve s).verdict := by
  rw [verdict_groupChildren, verdict_except, verdict_columns_path,
    ← verdict_within_columns hg hP hp, groupExcept]
  cases enters_path s g with
  | fails e hpath hwithin =>
    rw [hwithin, hpath]
    rfl
  | skips hpath hwithin =>
    rw [hwithin, hwithin, hpath]
    rfl
  | refuses c e hpath hwithin =>
    rw [hwithin, hwithin, Logged.verdict_of_ok hpath]
    rfl
  | enters c hpath hwithin =>
    have hc : c.Below .root :=
      Scope.forall_atPath (hereditary_below .root) hs hpath c List.mem_cons_self
    rw [hwithin, hwithin, allExcept, verdict_except, Logged.verdict_of_ok hpath]
    generalize hinside : (columns (P.map .path)).resolve { s with group := some c } = inside
    cases houtcome : inside.outcome with
    | error e =>
      rw [Logged.verdict_of_error houtcome]
      rfl
    | ok xs =>
      have hscope : ∀ d ∈ Scope.columns { s with group := some c }, d.Below c.path :=
        fun d hd => hc.child hd
      have hxs : ∀ x ∈ xs, x.Below c.path := by
        rw [← hinside] at houtcome
        refine forall_resolve (hereditary_below c.path) hscope ?_ houtcome
        simp [embedded, Reference.embedded]
      have hE : ∀ q ∈ xs.map path, c.path.isAncestorOf q := by
        intro q hq
        obtain ⟨x, hx, rfl⟩ := List.mem_map.mp hq
        exact (hxs x hx).ancestor
      rw [Logged.verdict_of_ok houtcome]
      exact congrArg Except.ok (hc.distinct_exceptColumns_children hE)

end Selection

namespace Tree

variable {t : Tree}

theorem WellFormed.below_root (h : t.WellFormed) : ∀ c ∈ t.columns, c.Below .root := by
  intro c hc
  exact below_of_placed (h.placed c hc) ((siblingsDistinct_iff.mp h.distinct).2 c hc)

/-- A selection of columns inside a group, and one of its other columns, agree with the same
selection by absolute paths: in the columns, or in the category of the failure. -/
theorem select_within_agrees {columns : List Column} (ht : build columns = .ok t) {g : Path}
    (hg : g ≠ .root) {P : List Path} (hP : P ≠ []) (hp : ∀ p ∈ P, p ≠ .root)
    (settings : Settings) :
    (t.select (.within (.path g) (.columns (P.map .path))) settings).verdict =
        (t.select (.columns (P.map fun p => .path (g ++ p))) settings).verdict ∧
      (t.select (.groupExcept (.path g) (.columns (P.map .path))) settings).verdict =
        (t.select (.groupChildren (.except (.columns [.path g])
          (.columns (P.map fun p => .path (g ++ p))))) settings).verdict := by
  constructor
  · exact Selection.verdict_within_columns hg hP hp
  · exact Selection.verdict_groupExcept (WellFormed.of_build ht).below_root hg hP hp

/-- One of the references empties a group inside, and another one has no column and is skipped. -/
theorem select_within_agrees_emptied :
    let g := topGroup "g" [topGroup "h" [topValue "x" ⟨.int, false⟩], topValue "y" ⟨.int, true⟩]
    let t : Tree := ⟨[topValue "a" ⟨.any, true⟩, g]⟩
    let P : List Path := [⟨["h", "x"]⟩, ⟨["zz"]⟩]
    let settings : Settings := { unresolved := .skip }
    build t.columns = .ok t ∧ (Path.mk ["g"] ≠ .root) ∧ P ≠ [] ∧ (∀ p ∈ P, p ≠ .root) ∧
      (t.select (.within (.path ⟨["g"]⟩) (.columns (P.map .path))) settings).verdict =
        (t.select (.columns (P.map fun p => .path (⟨["g"]⟩ ++ p))) settings).verdict ∧
      (t.select (.groupExcept (.path ⟨["g"]⟩) (.columns (P.map .path))) settings).verdict =
        (t.select (.groupChildren (.except (.columns [.path ⟨["g"]⟩])
          (.columns (P.map fun p => .path (⟨["g"]⟩ ++ p))))) settings).verdict := by
  intro g t P settings
  have ht : build t.columns = .ok t := rfl
  have hg : Path.mk ["g"] ≠ .root := by decide
  have hP : P ≠ [] := List.cons_ne_nil _ _
  have hp : ∀ p ∈ P, p ≠ .root := by decide
  exact ⟨ht, hg, hP, hp, select_within_agrees ht hg hP hp settings⟩

end Tree

end ColumnSelection
