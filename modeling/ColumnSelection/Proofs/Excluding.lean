import ColumnSelection.Proofs.Pruning

/-!
# Laws of exclusion

Exclusion goes below a group only where some excluded path lies below it. On anchored columns this
makes no difference to what remains: a group with children is always what remains of them, and a
leaf remains when no excluded path lies on the way down to it.
-/
namespace ColumnSelection.Column

variable {E : List Path}

/-- The group with this label over what remains of its children, if anything does. -/
def rebuilt? (l : Label) : List Column → Option Column
  | [] => none
  | c :: rest => some (.group l (c :: rest))

theorem rebuilt?_of_ne_nil (l : Label) {cs : List Column} (h : cs ≠ []) :
    rebuilt? l cs = some (.group l cs) := by
  cases cs with
  | nil => exact absurd rfl h
  | cons c rest => rfl

theorem exclude?_group_eq (l : Label) (cs : List Column) :
    exclude? E (.group l cs) =
      if l.path ∈ E then none
      else if E.any l.path.isAncestorOf then rebuilt? l (excludeAll E cs)
      else some (.group l cs) := by
  rw [exclude?]
  cases excludeAll E cs <;> rfl

theorem exclude?_eq_none_of_mem {c : Column} (h : c.path ∈ E) : exclude? E c = none := by
  cases c <;> exact if_pos h

theorem exclude?_leaf {c : Column} (hc : c.isGroup = false) (h : c.path ∉ E) :
    exclude? E c = some c := by
  cases c with
  | value l t => exact if_neg h
  | frame l s => exact if_neg h
  | group l cs => cases hc

theorem path_not_mem_of_exclude? {c d : Column} (h : exclude? E c = some d) : c.path ∉ E := by
  intro hmem
  rw [exclude?_eq_none_of_mem hmem] at h
  cases h

/-- With no excluded path at a column or below it, the column stays as it is. -/
theorem exclude?_eq_self {c : Column} (h : c.path ∉ E) (hbelow : ∀ p ∈ E, ¬ c.path.isAncestorOf p) :
    exclude? E c = some c := by
  cases c with
  | value l t => exact if_neg h
  | frame l s => exact if_neg h
  | group l cs =>
    have hany : ¬ E.any l.path.isAncestorOf := by simpa using hbelow
    exact (if_neg h).trans (if_neg hany)

/-- With no excluded path below an anchored group, everything that it holds stays as it is. -/
theorem exclude?_eq_self_of_mem {l : Label} {cs : List Column} (h : (Column.group l cs).Anchored)
    (hbelow : ∀ p ∈ E, ¬ l.path.isAncestorOf p) {c d : Column} (hc : c ∈ cs)
    (hd : d ∈ c.preorder) : exclude? E d = some d := by
  have hanc := h.isAncestorOf hc hd
  refine exclude?_eq_self (fun hmem => hbelow _ hmem hanc) fun p hp hdp => hbelow p hp ?_
  obtain ⟨hd', -⟩ := Path.isAncestorOf_iff_ne.mp hdp
  obtain ⟨n, r, he⟩ := (Path.isAncestorOf_iff _ _).mp hanc
  obtain ⟨t, ht⟩ := Path.startsWith_iff_segments.mp hd'
  exact (Path.isAncestorOf_iff _ _).mpr ⟨n, r ++ t, by rw [← ht, he]; simp⟩

theorem excludeAll_eq_self {l : Label} {cs : List Column} (h : (Column.group l cs).Anchored)
    (hbelow : ∀ p ∈ E, ¬ l.path.isAncestorOf p) : excludeAll E cs = cs := by
  rw [excludeAll_eq_filterMap]
  refine (List.filterMap_congr fun c hc => ?_).trans List.filterMap_some
  exact exclude?_eq_self_of_mem h hbelow hc c.self_mem_preorder

/-- A group with children is what remains of them, whether or not exclusion goes below it. -/
theorem exclude?_group {l : Label} {cs : List Column} (h : (Column.group l cs).Anchored)
    (hcs : cs ≠ []) :
    exclude? E (.group l cs) = if l.path ∈ E then none else rebuilt? l (excludeAll E cs) := by
  rw [exclude?_group_eq]
  refine if_congr Iff.rfl rfl ?_
  split_ifs with hany
  · rfl
  · rw [excludeAll_eq_self h (by simpa using hany), rebuilt?_of_ne_nil l hcs]

theorem excludeAll_nil_right (E : List Path) : excludeAll E [] = [] := rfl

/-- What remains of a column holds what remains of its children. -/
theorem children_of_exclude? {c d : Column} (h : c.Anchored) (hd : exclude? E c = some d) :
    d.children = excludeAll E c.children := by
  cases c with
  | value l t => rw [(prunes_of_exclude? hd).eq_of_not_isGroup rfl]; rfl
  | frame l s => rw [(prunes_of_exclude? hd).eq_of_not_isGroup rfl]; rfl
  | group l cs =>
    rcases eq_or_ne cs [] with rfl | hcs
    · have hnil := (prunes_of_exclude? hd).children.names
      simpa [excludeAll_nil_right] using hnil
    · have hmem : l.path ∉ E := path_not_mem_of_exclude? hd
      rw [exclude?_group h hcs, if_neg hmem] at hd
      rw [children_group]
      cases hrest : excludeAll E cs with
      | nil => rw [hrest] at hd; cases hd
      | cons b rest => rw [hrest] at hd; cases hd; rfl

/-- Exclusion acts on every column of a list by itself. -/
theorem excludeAll_append_columns (cs ds : List Column) :
    excludeAll E (cs ++ ds) = excludeAll E cs ++ excludeAll E ds := by
  simp [excludeAll_eq_filterMap]

theorem excludeAll_singleton (c : Column) : excludeAll E [c] = (exclude? E c).toList := by
  rw [excludeAll_eq_filterMap]
  cases h : exclude? E c <;> simp [h]

theorem excludeAll_eq_flatMap (cs : List Column) :
    excludeAll E cs = cs.flatMap fun c => excludeAll E [c] := by
  induction cs with
  | nil => rfl
  | cons c rest ih =>
    rw [List.flatMap_cons, ← ih, ← excludeAll_append_columns]
    rfl

theorem leavesAll_excludeAll_leaf {c : Column} (hc : c.isGroup = false) :
    leavesAll (excludeAll E [c]) =
      c.leaves.filter fun l => !E.any (Path.isBetween c.path l.path) := by
  rw [excludeAll_singleton, leaves_of_not_isGroup hc]
  by_cases hmem : c.path ∈ E
  · simp [exclude?_eq_none_of_mem hmem, hmem]
  · simp [exclude?_leaf hc hmem, List.filter_cons, leavesAll_eq_flatMap,
      leaves_of_not_isGroup hc, hmem]

/-- The leaves of what remains are those with no excluded path on the way down to them. -/
theorem leavesAll_excludeAll_singleton {c : Column} (h : c.Anchored) :
    leavesAll (excludeAll E [c]) =
      c.leaves.filter fun l => !E.any (Path.isBetween c.path l.path) := by
  induction c using Column.induct with
  | value l t => exact leavesAll_excludeAll_leaf rfl
  | frame l s => exact leavesAll_excludeAll_leaf rfl
  | group l cs ih =>
    by_cases hmem : l.path ∈ E
    · rw [excludeAll_singleton, exclude?_eq_none_of_mem hmem, Option.toList_none, leavesAll_nil,
        eq_comm, List.filter_eq_nil_iff]
      intro d hd
      have hdp := (h.of_mem_preorder d (mem_preorder_of_mem_leaves hd)).1
      have hat : Path.isBetween l.path d.path l.path = true :=
        Path.isBetween_iff.mpr ⟨Path.startsWith_self _, hdp⟩
      simpa using ⟨l.path, hmem, hat⟩
    · have hrest : leavesAll (excludeAll E [.group l cs]) = leavesAll (excludeAll E cs) := by
        rcases eq_or_ne cs [] with rfl | hcs
        · cases hd : exclude? E (.group l []) with
          | none => rw [excludeAll_singleton, hd]; rfl
          | some d =>
            have hnil := children_of_exclude? h hd
            have hgroup := (prunes_of_exclude? hd).isGroup_eq
            rw [excludeAll_singleton, hd]
            cases d with
            | group l' ds => cases hnil; rfl
            | value l' t => cases hgroup
            | frame l' s => cases hgroup
        · rw [excludeAll_singleton, exclude?_group h hcs, if_neg hmem]
          cases excludeAll E cs with
          | nil => rfl
          | cons b rest => simp [rebuilt?, leavesAll_eq_flatMap]
      rw [hrest, excludeAll_eq_flatMap, leaves_group, List.filter_flatMap, leavesAll_eq_flatMap,
        List.flatMap_assoc]
      refine List.flatMap_congr fun c hc => ?_
      obtain ⟨hpath, hanch⟩ := anchored_group.mp h c hc
      rw [← leavesAll_eq_flatMap, ih c hc hanch]
      refine List.filter_congr fun d hd => ?_
      have hdp := (hanch.of_mem_preorder d (mem_preorder_of_mem_leaves hd)).1
      rw [hpath] at hdp ⊢
      -- The group itself is not excluded, so only the way from the child counts.
      congr 1
      rw [Bool.eq_iff_iff, List.any_eq_true, List.any_eq_true]
      refine exists_congr fun p => and_congr_right fun hp => ?_
      have hne : p ≠ l.path := by rintro rfl; exact hmem hp
      rw [show (Column.group l cs).path = l.path from rfl, Path.isBetween_of_child hdp p]
      simp [hne]

theorem leavesAll_excludeAll {cs : List Column} (h : ∀ c ∈ cs, c.Anchored) :
    leavesAll (excludeAll E cs) =
      cs.flatMap fun c => c.leaves.filter fun l => !E.any (Path.isBetween c.path l.path) := by
  rw [excludeAll_eq_flatMap, leavesAll_eq_flatMap, List.flatMap_assoc]
  refine List.flatMap_congr fun c hc => ?_
  rw [← leavesAll_eq_flatMap, leavesAll_excludeAll_singleton (h c hc)]

/-- Every column held by what remains is what remains of a column held before. -/
theorem exists_of_mem_exclude? {c d b : Column} (h : c.Anchored) (hd : exclude? E c = some d)
    (hb : b ∈ d.preorder) : ∃ a ∈ c.preorder, exclude? E a = some b := by
  induction c using Column.induct generalizing d b with
  | value l t =>
    have he := (prunes_of_exclude? hd).eq_of_not_isGroup rfl
    subst he
    rw [preorder, List.mem_singleton] at hb
    exact ⟨.value l t, self_mem_preorder _, hb ▸ hd⟩
  | frame l s =>
    have he := (prunes_of_exclude? hd).eq_of_not_isGroup rfl
    subst he
    rw [preorder, List.mem_singleton] at hb
    exact ⟨.frame l s, self_mem_preorder _, hb ▸ hd⟩
  | group l cs ih =>
    rw [preorder_eq, List.mem_cons] at hb
    rcases hb with rfl | hb
    · exact ⟨.group l cs, self_mem_preorder _, hd⟩
    · rw [children_of_exclude? h hd, mem_preorderAll, excludeAll_eq_filterMap] at hb
      obtain ⟨d', hd', hb⟩ := hb
      obtain ⟨c, hc, hcd⟩ := List.mem_filterMap.mp hd'
      obtain ⟨a, ha, hab⟩ := ih c hc (anchored_group.mp h c hc).2 hcd hb
      exact ⟨a, mem_preorder_group.mpr (.inr ⟨c, hc, ha⟩), hab⟩

/-- Exclusion depends on the excluded paths of held columns, and on those below empty groups. -/
theorem exclude?_congr {E₁ E₂ : List Path} {c : Column} (h : c.Anchored)
    (hmem : ∀ a ∈ c.preorder, a.path ∈ E₁ ↔ a.path ∈ E₂)
    (hbelow : ∀ a ∈ c.preorder, a.isGroup → a.children = [] →
      E₁.any a.path.isAncestorOf = E₂.any a.path.isAncestorOf) :
    exclude? E₁ c = exclude? E₂ c := by
  induction c using Column.induct with
  | value l t =>
    rw [exclude?, exclude?]
    exact if_congr (hmem _ (self_mem_preorder _)) rfl rfl
  | frame l s =>
    rw [exclude?, exclude?]
    exact if_congr (hmem _ (self_mem_preorder _)) rfl rfl
  | group l cs ih =>
    have hself := hmem _ (self_mem_preorder _)
    rcases eq_or_ne cs [] with rfl | hcs
    · have hempty := hbelow (.group l []) (self_mem_preorder _) rfl rfl
      rw [path_group] at hempty
      rw [exclude?_group_eq, exclude?_group_eq, hempty]
      exact if_congr hself rfl rfl
    · rw [exclude?_group h hcs, exclude?_group h hcs]
      refine if_congr hself rfl (congrArg _ ?_)
      rw [excludeAll_eq_filterMap, excludeAll_eq_filterMap]
      refine List.filterMap_congr fun c hc => ih c hc (anchored_group.mp h c hc).2 ?_ ?_
      · exact fun a ha => hmem a (mem_preorder_group.mpr (.inr ⟨c, hc, ha⟩))
      · exact fun a ha => hbelow a (mem_preorder_group.mpr (.inr ⟨c, hc, ha⟩))

/-- Excluding two lists of paths one after the other is excluding both at once. -/
theorem exclude?_append {E₁ E₂ : List Path} {c : Column} (h : c.Anchored) :
    exclude? (E₁ ++ E₂) c = (exclude? E₁ c).bind (exclude? E₂) := by
  induction c using Column.induct with
  | value l t => by_cases h₁ : l.path ∈ E₁ <;> simp [exclude?, h₁]
  | frame l s => by_cases h₁ : l.path ∈ E₁ <;> simp [exclude?, h₁]
  | group l cs ih =>
    by_cases h₁ : l.path ∈ E₁
    · rw [exclude?_eq_none_of_mem (c := .group l cs) (List.mem_append_left _ h₁),
        exclude?_eq_none_of_mem (c := .group l cs) h₁]
      rfl
    rcases eq_or_ne cs [] with rfl | hcs
    · by_cases hany : E₁.any l.path.isAncestorOf <;>
        simp [exclude?_group_eq, h₁, hany, excludeAll_nil_right, rebuilt?]
    have hall : excludeAll (E₁ ++ E₂) cs = excludeAll E₂ (excludeAll E₁ cs) := by
      simp only [excludeAll_eq_filterMap, List.filterMap_filterMap]
      exact List.filterMap_congr fun c hc => ih c hc (anchored_group.mp h c hc).2
    rw [exclude?_group h hcs, exclude?_group h hcs, hall, if_neg h₁]
    cases hrest : excludeAll E₁ cs with
    | nil => simp [rebuilt?, excludeAll_nil_right]
    | cons b rest =>
      have hprune : Prunes (.group l (b :: rest)) (.group l cs) :=
        .group l (hrest ▸ excludeAll_prunesAll E₁ cs)
      rw [rebuilt?, Option.bind_some, exclude?_group (h.prune hprune) (List.cons_ne_nil _ _)]
      simp [h₁]

end Column

open Column

/-- Exclusion keeps exactly the leaves with no excluded path on the way down to them, keeps the
labels of surviving groups, leaves alone what has no excluded path below it, and drops a group
with an excluded path below it exactly when none of its children survives. -/
theorem exceptColumns_structure (S : List Column) (E : List Path) (hS : ∀ c ∈ S, c.Anchored) :
    leavesAll (exceptColumns S E) =
        S.flatMap (fun c => c.leaves.filter fun l => !E.any (Path.isBetween c.path l.path)) ∧
      exceptColumns S E = S.flatMap (fun c => exceptColumns [c] E) ∧
      (∀ d ∈ preorderAll (exceptColumns S E), ∃ c ∈ preorderAll S,
        exceptColumns [c] E = [d] ∧ d.label = c.label ∧ d.kind = c.kind ∧
          d.children = exceptColumns c.children E ∧
          (c.isGroup = false ∨ (∀ p ∈ E, ¬ c.path.isAncestorOf p) → d = c)) ∧
      ∀ g ∈ preorderAll S, g.isGroup → g.path ∉ E → (∃ p ∈ E, g.path.isAncestorOf p) →
        (exceptColumns [g] E = [] ↔ ∀ c ∈ g.children, exceptColumns [c] E = []) := by
  unfold exceptColumns
  refine ⟨leavesAll_excludeAll hS, excludeAll_eq_flatMap S, ?_, ?_⟩
  · intro d hd
    obtain ⟨d', hd', hd⟩ := mem_preorderAll.mp hd
    rw [excludeAll_eq_filterMap] at hd'
    obtain ⟨c', hc', hcd⟩ := List.mem_filterMap.mp hd'
    obtain ⟨c, hc, hce⟩ := exists_of_mem_exclude? (hS c' hc') hcd hd
    have hprune := prunes_of_exclude? hce
    refine ⟨c, mem_preorderAll.mpr ⟨c', hc', hc⟩, by rw [excludeAll_singleton, hce]; rfl,
      hprune.label_eq, hprune.kind_eq,
      children_of_exclude? ((hS c' hc').of_mem_preorder c hc).2 hce, ?_⟩
    rintro (hleaf | hbelow)
    · exact hprune.eq_of_not_isGroup hleaf
    · rw [exclude?_eq_self (path_not_mem_of_exclude? hce) hbelow] at hce
      exact (Option.some.inj hce).symm
  · intro g hg hgroup hmem hbelow
    have hnil : excludeAll E [g] = [] ↔ excludeAll E g.children = [] := by
      cases g with
      | value l t => cases hgroup
      | frame l s => cases hgroup
      | group l cs =>
        have hany : E.any l.path.isAncestorOf := by simpa using hbelow
        rw [path_group] at hmem
        rw [excludeAll_singleton, exclude?_group_eq, if_neg hmem, if_pos hany, children_group]
        cases excludeAll E cs <;> simp [rebuilt?]
    rw [hnil, excludeAll_eq_flatMap, List.flatMap_eq_nil_iff]

/-- A nested leaf excluded from a group that stands twice, beside a path without a column. -/
theorem exceptColumns_structure_nested :
    let g := Column.topGroup "g" [.topValue "x" ⟨.int, false⟩, .topValue "y" ⟨.int, true⟩]
    let S := [g, .topValue "a" ⟨.any, false⟩, g.named "h"]
    let E := [⟨["g", "x"]⟩, ⟨["zz"]⟩]
    (∀ c ∈ S, c.Anchored) ∧ (leavesAll (exceptColumns S E)).map Column.path =
      [⟨["g", "y"]⟩, ⟨["a"]⟩, ⟨["g", "y"]⟩] := by
  intro g S E
  have hS : ∀ c ∈ S, c.Anchored := by
    simp [S, g, Column.topGroup, Column.topValue, Column.rebase, Column.named, Column.withLabel,
      Anchored, AnchoredAll, Label.under, Label.top, label, path, name]
  refine ⟨hS, ?_⟩
  rw [(exceptColumns_structure S E hS).1]
  rfl

end ColumnSelection
