import ColumnSelection.Proofs.Reinference
import ColumnSelection.Proofs.Removal
import ColumnSelection.Proofs.SuccessiveExclusion

/-!
# Removing columns in two steps

The second of two removals works on the table inferred from what the first one has left. That
table has exactly the columns left by the first, so a path either still leads to its column or is
skipped, and both steps together remove what a single one removes.
-/
namespace ColumnSelection

open Column

/-- A group that exclusion leaves without children had none. -/
theorem Column.children_eq_nil_of_exclude? {E : List Path} {c d : Column} (h : c.Anchored)
    (hd : exclude? E c = some d) (hgroup : d.isGroup) (hnil : d.children = []) :
    c.children = [] := by
  cases c with
  | value l t => rfl
  | frame l s => rfl
  | group l cs =>
    by_contra hcs
    have hmem : l.path ∉ E := path_not_mem_of_exclude? hd
    rw [exclude?_group h hcs, if_neg hmem] at hd
    cases hrest : excludeAll E cs with
    | nil => rw [hrest] at hd; cases hd
    | cons b rest => rw [hrest] at hd; cases hd; cases hnil

namespace Tree

variable {t : Tree}

/-- No column lies below a group without children. -/
theorem not_isAncestorOf_of_find? {g : Column} {p q : Path} (hg : t.find? p = some g)
    (hnil : g.children = []) (hq : (t.find? q).isSome) : ¬ p.isAncestorOf q := by
  intro hpq
  obtain ⟨n, r, hseg⟩ := (Path.isAncestorOf_iff _ _).mp hpq
  have hp : p.segments ≠ [] := by
    intro hroot
    rw [find?, hroot, lookup_nil] at hg
    cases hg
  obtain ⟨c, hc⟩ := Option.isSome_iff_exists.mp hq
  rw [find?, hseg, lookup_append hp (List.cons_ne_nil _ _), ← find?, hg, Option.bind_some] at hc
  exact children_ne_nil_of_lookup hc hnil

/-- In a tree that has lost some columns, further exclusion only looks at the paths that still lead
to a column. -/
theorem WellFormed.exceptColumns_held (h : t.WellFormed) {E paths : List Path}
    (hpaths : ∀ p ∈ paths, (t.find? p).isSome) :
    exceptColumns (exceptColumns t.columns E) ((Tree.mk (exceptColumns t.columns E)).held paths) =
      exceptColumns (exceptColumns t.columns E) paths := by
  have hprune : PrunesAll (exceptColumns t.columns E) t.columns := excludeAll_prunesAll _ _
  have hwf := h.prune hprune
  -- A group without children is one of the tree itself, so no path of the tree leads below it.
  have hbelow : ∀ d ∈ exceptColumns t.columns E, ∀ a ∈ d.preorder, a.isGroup → a.children = [] →
      ∀ p ∈ paths, ¬ a.path.isAncestorOf p := by
    intro d hd a ha hgroup hnil p hp
    rw [exceptColumns, excludeAll_eq_filterMap] at hd
    obtain ⟨c, hc, hcd⟩ := List.mem_filterMap.mp hd
    obtain ⟨b, hb, hba⟩ := exists_of_mem_exclude? (h.placed c hc).2 hcd ha
    have hanch := ((h.placed c hc).2.of_mem_preorder b hb).2
    have hfind := h.find?_of_mem_depthFirst (mem_preorderAll.mpr ⟨c, hc, hb⟩)
    rw [(prunes_of_exclude? hba).path_eq]
    exact not_isAncestorOf_of_find? hfind (children_eq_nil_of_exclude? hanch hba hgroup hnil)
      (hpaths p hp)
  generalize exceptColumns t.columns E = cs at hwf hbelow ⊢
  rw [exceptColumns, exceptColumns, excludeAll_eq_filterMap, excludeAll_eq_filterMap]
  refine List.filterMap_congr fun d hd => exclude?_congr (hwf.placed d hd).2 (fun a ha => ?_) ?_
  · have hfind := hwf.find?_of_mem_depthFirst (mem_preorderAll.mpr ⟨d, hd, ha⟩)
    simp [held, hfind]
  · intro a ha hgroup hnil
    have hnone := hbelow d hd a ha hgroup hnil
    have hheld : ((Tree.mk cs).held paths).any a.path.isAncestorOf = false :=
      List.any_eq_false.mpr fun p hp => hnone p (List.mem_filter.mp hp).1
    rw [hheld, List.any_eq_false.mpr hnone]

end Tree

namespace BatchOperator

variable {batch : List Record}

theorem outcome_runAll_pair {first second : BatchOperator} {middle out : List Record}
    (h₁ : (first.run batch).outcome = .ok middle) (h₂ : (second.run middle).outcome = .ok out) :
    (runAll [first, second] batch).outcome = .ok out := by
  refine Logged.outcome_bind_eq_ok.mpr ⟨middle, h₁, ?_⟩
  exact Logged.outcome_bind_eq_ok.mpr ⟨out, h₂, rfl⟩

/-- Two removals that skip what is gone come to a projection onto what both leave. -/
theorem outcome_runAll_remove (hbatch : batch ≠ [])
    (hmerged : ∀ r ∈ batch, r.payload.Merged) {t : Tree} (ht : Tree.infer batch = .ok t)
    {first second : List Path} (hfirst : ∀ p ∈ first, (t.find? p).isSome)
    (hsecond : ∀ p ∈ second, (t.find? p).isSome) (settings : Settings) {skipping : Settings}
    (hskip : skipping.unresolved = .skip) :
    (runAll [remove (.columns (first.map .path)) settings,
      remove (.columns (second.map .path)) skipping] batch).outcome =
        .ok (batch.map fun r => r.project (exceptColumns t.columns (first ++ second))) := by
  have hwf := Tree.WellFormed.of_infer ht
  have hrun₁ := outcome_run_remove hbatch ht hwf (PrunesAll.refl _) hfirst settings (.inr hfirst)
  rw [Tree.held_eq_self hfirst] at hrun₁
  have hprune₁ : PrunesAll (exceptColumns t.columns first) t.columns := excludeAll_prunesAll _ _
  have hrun₂ := outcome_run_remove (by simpa using hbatch)
    (Tree.infer_project hmerged ht hprune₁) hwf hprune₁ hsecond skipping (.inl hskip)
  have hsplit : exceptColumns t.columns (first ++ second) =
      exceptColumns (exceptColumns t.columns first) second :=
    exceptColumns_append fun c hc => (hwf.placed c hc).2
  have hprune₂ : PrunesAll (exceptColumns t.columns (first ++ second))
      (exceptColumns t.columns first) := hsplit ▸ excludeAll_prunesAll _ _
  have hbare₁ := Bare.prune_of_mem hprune₁ (Tree.bare_of_infer ht)
  refine outcome_runAll_pair hrun₁ (hrun₂.trans ?_)
  rw [hwf.exceptColumns_held hsecond, ← hsplit, List.map_map]
  refine congrArg _ (List.map_congr_left fun r _ => ?_)
  exact r.project_project hprune₂ hbare₁ (hwf.distinct.prune hprune₁)

/-- On records in which no object repeats a key, removing columns in two steps that skip what is
gone, in either order, is removing them all at once. -/
theorem runAll_remove_eq_remove_append (hmerged : ∀ r ∈ batch, r.payload.Merged) {table : Table}
    (htable : Table.ofRecords batch = .ok table) {first second : List Path}
    (hfirst : ∀ p ∈ first, p ∈ table.tree.depthFirst.map Column.path)
    (hsecond : ∀ p ∈ second, p ∈ table.tree.depthFirst.map Column.path) (settings : Settings)
    {s₁ s₂ : Settings} (h₁ : s₁.unresolved = .skip) (h₂ : s₂.unresolved = .skip) :
    ∃ out,
      ((remove (.columns ((first ++ second).map .path)) settings).run batch).outcome = .ok out ∧
      (runAll [remove (.columns (first.map .path)) s₁,
        remove (.columns (second.map .path)) s₂] batch).outcome = .ok out ∧
      (runAll [remove (.columns (second.map .path)) s₂,
        remove (.columns (first.map .path)) s₁] batch).outcome = .ok out := by
  rcases eq_or_ne batch [] with rfl | hbatch
  · exact ⟨[], rfl, rfl, rfl⟩
  obtain ⟨t, ht, he⟩ := bind_eq_ok.mp htable
  cases he
  have hwf := Tree.WellFormed.of_infer ht
  have hfirst' := fun p hp => hwf.isSome_find?_of_mem (hfirst p hp)
  have hsecond' := fun p hp => hwf.isSome_find?_of_mem (hsecond p hp)
  have hboth : ∀ p ∈ first ++ second, (t.find? p).isSome := by
    simpa [or_imp, forall_and] using ⟨hfirst', hsecond'⟩
  have hsingle := outcome_run_remove hbatch ht hwf (PrunesAll.refl _) hboth settings (.inr hboth)
  rw [Tree.held_eq_self hboth] at hsingle
  refine ⟨_, hsingle, ?_, ?_⟩
  · exact outcome_runAll_remove hbatch hmerged ht hfirst' hsecond' s₁ h₂
  · rw [exceptColumns_append_comm first second fun c hc => (hwf.placed c hc).2]
    exact outcome_runAll_remove hbatch hmerged ht hsecond' hfirst' s₂ h₁

/-- The second step finds one of its columns gone with its group. -/
theorem runAll_remove_eq_remove_append_nested :
    let g := topGroup "g" [topValue "x" ⟨.int, false⟩, topValue "y" ⟨.string, false⟩]
    let batch : List Record :=
      [⟨some "1", .obj [("a", .int 1), ("g", .obj [("x", .int 2), ("y", .str "s")]),
        ("b", .bool true)]⟩, ⟨none, .obj [("g", .null)]⟩]
    let table : Table := ⟨⟨[topValue "a" ⟨.int, true⟩, g, topValue "b" ⟨.bool, true⟩]⟩, batch⟩
    let first : List Path := [⟨["g"]⟩]
    let second : List Path := [⟨["g", "x"]⟩, ⟨["a"]⟩]
    let settings : Settings := { unresolved := .skip }
    (∀ r ∈ batch, r.payload.Merged) ∧ Table.ofRecords batch = .ok table ∧
      (∀ p ∈ first, p ∈ table.tree.depthFirst.map Column.path) ∧
      (∀ p ∈ second, p ∈ table.tree.depthFirst.map Column.path) ∧ settings.unresolved = .skip ∧
      ∃ out, ((remove (.columns ((first ++ second).map .path)) {}).run batch).outcome = .ok out ∧
        (runAll [remove (.columns (first.map .path)) settings,
          remove (.columns (second.map .path)) settings] batch).outcome = .ok out ∧
        (runAll [remove (.columns (second.map .path)) settings,
          remove (.columns (first.map .path)) settings] batch).outcome = .ok out := by
  intro g batch table first second settings
  have hmerged : ∀ r ∈ batch, r.payload.Merged := by
    simp [batch, Json.Merged, Json.MergedFields]
  have htable : Table.ofRecords batch = .ok table := rfl
  have hfirst : ∀ p ∈ first, p ∈ table.tree.depthFirst.map Column.path := by decide
  have hsecond : ∀ p ∈ second, p ∈ table.tree.depthFirst.map Column.path := by decide
  exact ⟨hmerged, htable, hfirst, hsecond, rfl,
    runAll_remove_eq_remove_append hmerged htable hfirst hsecond {} rfl rfl⟩

end BatchOperator

end ColumnSelection
