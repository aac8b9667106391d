import ColumnSelection.Proofs.Excluding
import ColumnSelection.Proofs.TreeLookup
import ColumnSelection.Selection.Resolve

/-!
# What resolution returns

Every column that a selection resolves to comes from a column of the scope, or from one embedded
in the expression, by going to a child, leaving out columns below it, and attaching a display
name. From the root of a tree this makes it a pruning of the tree's column at its path.
-/
namespace ColumnSelection

open Column

/-- The columns that a reference brings along instead of looking them up. -/
def Reference.embedded : Reference → List Column
  | .resolved columns => columns
  | _ => []

/-- The columns that the references of a selection bring along. -/
def Selection.embedded : Selection → List Column
  | .columns references => references.flatMap Reference.embedded
  | .within g inner => g.embedded ++ inner.embedded
  | .and left right => left.embedded ++ right.embedded
  | .except source exclusion => source.embedded ++ exclusion.embedded
  | .slice source _ | .filter source _ | .distinct source | .simplify source
  | .groupChildren source | .pick source _ _ | .named source _ => source.embedded
  | .all | .positions _ | .satisfying _ | .anyDepth _ => []

/-- A property of columns that goes over to children, prunings and renamed columns. -/
structure Column.Hereditary (Q : Column → Prop) : Prop where
  child : ∀ {c d}, Q c → d ∈ c.children → Q d
  prune : ∀ {c d}, Q c → d.Prunes c → Q d
  named : ∀ {c} shown, Q c → Q (c.named shown)

namespace Column.Hereditary

variable {Q : Column → Prop} (hQ : Hereditary Q)
include hQ

theorem preorder {c : Column} (hc : Q c) : ∀ d ∈ c.preorder, Q d := by
  induction c using Column.induct with
  | value l t => simpa [Column.preorder] using hc
  | frame l s => simpa [Column.preorder] using hc
  | group l cs ih =>
    intro d hd
    rcases mem_preorder_group.mp hd with rfl | ⟨c, hmem, hd⟩
    · exact hc
    · exact ih c hmem (hQ.child hc hmem) d hd

end Column.Hereditary

theorem distinctFrom_sublist (seen : List Path) (cs : List Column) :
    (distinctFrom seen cs).Sublist cs := by
  induction cs generalizing seen with
  | nil => exact .slnil
  | cons c rest ih =>
    rw [distinctFrom]
    split_ifs
    · exact (ih seen).cons c
    · exact (ih _).cons_cons c

theorem distinct_sublist (cs : List Column) : (distinct cs).Sublist cs :=
  distinctFrom_sublist [] cs

theorem simplify_sublist (cs : List Column) : (simplify cs).Sublist cs :=
  List.filter_sublist.trans (distinct_sublist cs)

theorem Slice.apply_subset (part : Slice) (cs : List Column) : part.apply cs ⊆ cs := by
  cases part with
  | take n => exact (List.take_sublist n cs).subset
  | takeLast n => exact (List.drop_sublist _ cs).subset
  | drop n => exact (List.drop_sublist n cs).subset
  | dropLast n => exact (List.take_sublist _ cs).subset
  | takeWhile p => exact (List.takeWhile_sublist _).subset
  | dropWhile p => exact (List.dropWhile_sublist _).subset
  | takeLastWhile p => exact (List.drop_sublist _ cs).subset
  | dropLastWhile p => exact (List.take_sublist _ cs).subset

theorem Choice.apply_subset {choice : Choice} {cs ds : List Column} {scope : Path}
    (h : choice.apply cs scope = .ok ds) : ds ⊆ cs := by
  cases choice with
  | first =>
    cases hc : cs.head? with
    | none => simp [Choice.apply, hc] at h
    | some c =>
      have hds : [c] = ds := by simpa [Choice.apply, hc] using h
      simpa [← hds] using List.mem_of_mem_head? hc
  | last =>
    cases hc : cs.getLast? with
    | none => simp [Choice.apply, hc] at h
    | some c =>
      have hds : [c] = ds := by simpa [Choice.apply, hc] using h
      simpa [← hds] using List.mem_of_getLast? hc
  | single =>
    by_cases hlen : cs.length = 1
    · obtain ⟨c, rfl⟩ := List.length_eq_one_iff.mp hlen
      have hds : [c] = ds := by simpa [Choice.apply] using h
      simp [← hds]
    · simp [Choice.apply, hlen] at h

section invariant

variable {Q : Column → Prop} {s : Scope}

theorem Scope.unresolved_eq_ok {name : String} {place : Path} {cs : List Column}
    (h : (s.unresolved name place).outcome = .ok cs) : cs = [] := by
  rw [Scope.unresolved] at h
  split at h
  · cases h
  · obtain ⟨-, -, h⟩ := Logged.outcome_bind_eq_ok.mp h
    cases h
    rfl

theorem Scope.forall_walk (hQ : Hereditary Q) (hs : ∀ c ∈ s.columns, Q c) {whole : Path}
    {reached : Option Column} (hr : ∀ c ∈ reached, Q c) {names : List String} {cs : List Column}
    (h : (s.walk whole reached names).outcome = .ok cs) : ∀ c ∈ cs, Q c := by
  induction names generalizing reached with
  | nil =>
    rw [Scope.walk] at h
    cases h
    simpa using hr
  | cons n rest ih =>
    cases reached with
    | none =>
      rw [Scope.walk] at h
      cases hf : s.columns.find? (·.name == n) with
      | none =>
        simp only [hf] at h
        simp [Scope.unresolved_eq_ok h]
      | some c =>
        simp only [hf] at h
        exact ih (by simpa using hs c (List.mem_of_find?_eq_some hf)) h
    | some parent =>
      rw [Scope.walk] at h
      split_ifs at h
      · cases hf : parent.child? n with
        | none =>
          simp only [hf] at h
          simp [Scope.unresolved_eq_ok h]
        | some c =>
          simp only [hf] at h
          refine ih (fun d hd => ?_) h
          cases hd
          exact hQ.child (hr parent rfl) (List.mem_of_find?_eq_some hf)
      · cases h

theorem Scope.forall_atPath (hQ : Hereditary Q) (hs : ∀ c ∈ s.columns, Q c) {p : Path}
    {cs : List Column} (h : (s.atPath p).outcome = .ok cs) : ∀ c ∈ cs, Q c := by
  rw [Scope.atPath] at h
  split_ifs at h
  · cases h
  · exact Scope.forall_walk hQ hs (by simp) h

theorem Reference.forall_resolve (hQ : Hereditary Q) (hs : ∀ c ∈ s.columns, Q c) {r : Reference}
    (he : ∀ c ∈ r.embedded, Q c) {cs : List Column} (h : (r.resolve s).outcome = .ok cs) :
    ∀ c ∈ cs, Q c := by
  cases r with
  | name text =>
    obtain ⟨p, -, h⟩ := Logged.outcome_bind_eq_ok.mp h
    exact Scope.forall_atPath hQ hs h
  | path p => exact Scope.forall_atPath hQ hs h
  | typed p type =>
    obtain ⟨ds, hds, h⟩ := Logged.outcome_bind_eq_ok.mp h
    split at h
    · cases h
    · cases h
      exact Scope.forall_atPath hQ hs hds
  | resolved columns =>
    cases h
    exact he

/-- A hereditary property of the columns of the scope and of the embedded columns is one of all
columns that the selection resolves to. -/
theorem Selection.forall_resolve (hQ : Hereditary Q) (hs : ∀ c ∈ s.columns, Q c)
    {selection : Selection} (he : ∀ c ∈ selection.embedded, Q c) {cs : List Column}
    (h : (selection.resolve s).outcome = .ok cs) : ∀ c ∈ cs, Q c := by
  induction selection generalizing s cs with
  | all =>
    cases h
    exact hs
  | columns references =>
    intro c hc
    obtain ⟨r, hr, part, hpart, hc⟩ := Logged.mem_of_collect_eq_ok h hc
    exact Reference.forall_resolve hQ hs
      (fun d hd => he d (List.mem_flatMap.mpr ⟨r, hr, hd⟩)) hpart c hc
  | positions indices =>
    intro c hc
    obtain ⟨i, -, part, hpart, hc⟩ := Logged.mem_of_collect_eq_ok h hc
    rw [Selection.atIndex] at hpart
    split at hpart
    · next d hd =>
      cases hpart
      rw [List.mem_singleton] at hc
      exact hc ▸ hs d (List.mem_of_getElem? hd)
    · rw [Scope.unresolved_eq_ok hpart] at hc
      cases hc
  | satisfying p =>
    cases h
    exact fun c hc => hs c (List.mem_filter.mp hc).1
  | anyDepth p =>
    cases h
    intro c hc
    rw [searchAll_eq_filter] at hc
    obtain ⟨d, hd, hc⟩ := mem_preorderAll.mp (List.mem_filter.mp hc).1
    exact hQ.preorder (hs d hd) c hc
  | within g inner ih =>
    obtain ⟨groups, hgroups, h⟩ := Logged.outcome_bind_eq_ok.mp h
    have hg := Reference.forall_resolve hQ hs
      (fun c hc => he c (List.mem_append_left _ hc)) hgroups
    intro c hc
    obtain ⟨d, hmem, part, hpart, hc⟩ := Logged.mem_of_collect_eq_ok h hc
    obtain ⟨below, hbelow, hpart⟩ := Logged.outcome_bind_eq_ok.mp hpart
    rw [Logged.outcome_ofExcept, Scope.descend] at hbelow
    split_ifs at hbelow
    cases hbelow
    refine ih (fun b hb => ?_) (fun b hb => he b (List.mem_append_right _ hb)) hpart c hc
    exact hQ.child (hg d hmem) hb
  | and left right ihl ihr =>
    obtain ⟨front, hfront, h⟩ := Logged.outcome_bind_eq_ok.mp h
    obtain ⟨back, hback, h⟩ := Logged.outcome_bind_eq_ok.mp h
    cases h
    intro c hc
    rcases List.mem_append.mp hc with hc | hc
    · exact ihl hs (fun d hd => he d (List.mem_append_left _ hd)) hfront c hc
    · exact ihr hs (fun d hd => he d (List.mem_append_right _ hd)) hback c hc
  | except source exclusion ihs _ =>
    obtain ⟨columns, hcolumns, h⟩ := Logged.outcome_bind_eq_ok.mp h
    obtain ⟨excluded, -, h⟩ := Logged.outcome_bind_eq_ok.mp h
    cases h
    intro c hc
    obtain ⟨d, hd, hcd⟩ := (excludeAll_prunesAll _ _).mem ((distinct_sublist _).subset hc)
    exact hQ.prune (ihs hs (fun d hd => he d (List.mem_append_left _ hd)) hcolumns d hd) hcd
  | slice source part ih =>
    obtain ⟨columns, hcolumns, h⟩ := Logged.outcome_bind_eq_ok.mp h
    cases h
    exact fun c hc => ih hs he hcolumns c (part.apply_subset columns hc)
  | filter source p ih =>
    obtain ⟨columns, hcolumns, h⟩ := Logged.outcome_bind_eq_ok.mp h
    cases h
    exact fun c hc => ih hs he hcolumns c (List.mem_filter.mp hc).1
  | distinct source ih =>
    obtain ⟨columns, hcolumns, h⟩ := Logged.outcome_bind_eq_ok.mp h
    cases h
    exact fun c hc => ih hs he hcolumns c ((distinct_sublist columns).subset hc)
  | simplify source ih =>
    obtain ⟨columns, hcolumns, h⟩ := Logged.outcome_bind_eq_ok.mp h
    cases h
    exact fun c hc => ih hs he hcolumns c ((simplify_sublist columns).subset hc)
  | groupChildren source ih =>
    obtain ⟨columns, hcolumns, h⟩ := Logged.outcome_bind_eq_ok.mp h
    cases h
    intro c hc
    obtain ⟨d, hd, hc⟩ := List.mem_flatMap.mp hc
    exact hQ.child (ih hs he hcolumns d hd) hc
  | pick source choice p ih =>
    obtain ⟨columns, hcolumns, h⟩ := Logged.outcome_bind_eq_ok.mp h
    intro c hc
    have hmem := Choice.apply_subset h hc
    cases p with
    | none => exact ih hs he hcolumns c hmem
    | some p => exact ih hs he hcolumns c (List.mem_filter.mp hmem).1
  | named source shown ih =>
    obtain ⟨columns, hcolumns, h⟩ := Logged.outcome_bind_eq_ok.mp h
    split at h
    · cases h
      intro c hc
      rw [List.mem_singleton] at hc
      exact hc ▸ hQ.named shown (ih hs he hcolumns _ List.mem_cons_self)
    · cases h

end invariant

namespace Column

/-- The column with the display name of another. -/
def shownLike (c node : Column) : Column :=
  c.withLabel { c.label with shownAs := node.shownAs }

theorem Prunes.withLabel {d c : Column} (h : d.Prunes c) (l : Label) :
    (d.withLabel l).Prunes (c.withLabel l) := by
  cases h with
  | value => exact .value l _
  | frame => exact .frame l _
  | group _ h => exact .group l h

@[simp] theorem children_withLabel (c : Column) (l : Label) :
    (c.withLabel l).children = c.children := by
  cases c <;> rfl

theorem withLabel_label (c : Column) : c.withLabel c.label = c := by
  cases c <;> rfl

@[simp] theorem path_named (c : Column) (shown : String) : (c.named shown).path = c.path := by
  cases c <;> rfl

@[simp] theorem shownLike_named (c node : Column) (shown : String) :
    (c.named shown).shownLike node = c.shownLike node := by
  cases c <;> rfl

theorem Prunes.shownLike_self {d c : Column} (h : d.Prunes c) : d.shownLike c = d := by
  have hl : ({ d.label with shownAs := c.shownAs } : Label) = d.label := by
    rw [shownAs, ← h.label_eq]
  rw [shownLike, hl, withLabel_label]

end Column

namespace Tree

/-- The column is a pruning of the tree's column at its path, up to its own display name. -/
def HasPruning (t : Tree) (c : Column) : Prop :=
  ∃ node, t.find? c.path = some node ∧ (c.shownLike node).Prunes node

theorem WellFormed.hasPruning_of_mem {t : Tree} (h : t.WellFormed) {c : Column}
    (hc : c ∈ t.columns) : t.HasPruning c := by
  refine ⟨c, h.find?_of_mem_columns hc, ?_⟩
  rw [(Prunes.refl c).shownLike_self]
  exact Prunes.refl c

theorem WellFormed.hereditary_hasPruning {t : Tree} (h : t.WellFormed) :
    Hereditary t.HasPruning where
  child := by
    rintro c d ⟨node, hnode, hprune⟩ hd
    have hall : PrunesAll c.children node.children := by
      simpa [shownLike] using hprune.children
    obtain ⟨m, hm, hdm⟩ := hall.mem hd
    refine ⟨m, ?_, by rwa [hdm.shownLike_self]⟩
    rw [hdm.path_eq]
    exact h.find?_of_mem_children hnode hm
  prune := by
    rintro c d ⟨node, hnode, hprune⟩ hd
    refine ⟨node, by rwa [hd.path_eq], ?_⟩
    have hlike := hd.withLabel { c.label with shownAs := node.shownAs }
    rw [← hd.label_eq] at hlike
    rw [shownLike, ← hd.label_eq] at hprune
    exact hlike.trans hprune
  named := by
    rintro c shown ⟨node, hnode, hprune⟩
    exact ⟨node, by rwa [path_named], by rwa [shownLike_named]⟩

/-- Whatever the selection and the settings, the columns that a tree gives are prunings of its own
columns at their paths; only the display name of a resulting column may differ. -/
theorem select_hasPruning {columns : List Column} {t : Tree} (ht : build columns = .ok t)
    {selection : Selection} (he : ∀ c ∈ selection.embedded, t.HasPruning c) (settings : Settings)
    {cs : List Column} (h : (t.select selection settings).outcome = .ok cs) :
    ∀ c ∈ cs, t.HasPruning c :=
  have hwf := WellFormed.of_build ht
  Selection.forall_resolve hwf.hereditary_hasPruning (fun _ => hwf.hasPruning_of_mem) he h

/-- A group without one of its children is embedded, entered, and made again under another name. -/
theorem select_hasPruning_rebuilt :
    let g := topGroup "g" [topValue "x" ⟨.int, false⟩, topValue "y" ⟨.any, true⟩]
    let y := Column.value ⟨"y", ⟨["g", "y"]⟩, none⟩ ⟨.any, true⟩
    let kept := Column.group ⟨"g", ⟨["g"]⟩, some "h"⟩ [y]
    let selection := Selection.and (.within (.resolved [kept]) .all)
      (.named (.except (.columns [.path ⟨["g"]⟩]) (.columns [.path ⟨["g", "x"]⟩])) "h")
    build [g] = .ok ⟨[g]⟩ ∧ (∀ c ∈ selection.embedded, (Tree.mk [g]).HasPruning c) ∧
      ((Tree.mk [g]).select selection {}).outcome = .ok [y, kept] ∧
      ∀ c ∈ [y, kept], (Tree.mk [g]).HasPruning c := by
  intro g y kept selection
  have hbuild : build [g] = .ok ⟨[g]⟩ := rfl
  have hembedded : ∀ c ∈ selection.embedded, (Tree.mk [g]).HasPruning c := by
    intro c hc
    have hkept : c = kept := by simpa [selection, Selection.embedded, Reference.embedded] using hc
    exact hkept ▸ ⟨g, rfl, .group _ (.cons_right (.cons (.value _ _) .nil))⟩
  have hselect : ((Tree.mk [g]).select selection {}).outcome = .ok [y, kept] := rfl
  exact ⟨hbuild, hembedded, hselect, select_hasPruning hbuild hembedded {} hselect⟩

end Tree

end ColumnSelection
