import ColumnSelection.Proofs.TreeIdentity

/-!
# Searching at every depth

What a group of a tree holds stands together in the pre-order of the tree, directly behind the
group. A search at any depth inside the group therefore gives, in the order of the tree, those of
its columns that satisfy the predicate and lie strictly below the group. The schemas of frames are
not searched.
-/
namespace ColumnSelection

open Column

/-- Where nothing repeats, a stretch of a list is what a test leaves that singles its items out. -/
theorem filter_eq_of_block {α : Type*} {q : α → Bool} {front block back : List α}
    (hnodup : (front ++ block ++ back).Nodup)
    (hq : ∀ a ∈ front ++ block ++ back, q a = true ↔ a ∈ block) :
    (front ++ block ++ back).filter q = block := by
  obtain ⟨hleft, -, hback⟩ := List.nodup_append.mp hnodup
  obtain ⟨-, -, hfront⟩ := List.nodup_append.mp hleft
  have hnone : ∀ part ⊆ front ++ block ++ back, (∀ a ∈ part, a ∉ block) → part.filter q = [] := by
    intro part hpart hnot
    rw [List.filter_eq_nil_iff]
    intro a ha hqa
    exact hnot a ha ((hq a (hpart ha)).mp hqa)
  have hfrontNone : front.filter q = [] :=
    hnone front (by simp) fun a ha hmem => hfront a ha a hmem rfl
  have hbackNone : back.filter q = [] :=
    hnone back (by simp) fun a ha hmem => hback a (List.mem_append_right front hmem) a ha rfl
  have hblock : block.filter q = block :=
    List.filter_eq_self.mpr fun a ha => (hq a (by simp [ha])).mpr ha
  rw [List.filter_append, List.filter_append, hfrontNone, hblock, hbackNone, List.nil_append,
    List.append_nil]

namespace Column

/-- A column and what it holds stand together in the pre-order of what holds the column. -/
theorem exists_preorder_eq_append {c d : Column} (hd : d ∈ c.preorder) :
    ∃ front back, c.preorder = front ++ d.preorder ++ back := by
  induction c using Column.induct with
  | value l t =>
    obtain rfl := List.mem_singleton.mp hd
    exact ⟨[], [], by simp⟩
  | frame l s =>
    obtain rfl := List.mem_singleton.mp hd
    exact ⟨[], [], by simp⟩
  | group l cs ih =>
    rcases mem_preorder_group.mp hd with rfl | ⟨c, hc, hd⟩
    · exact ⟨[], [], by simp⟩
    · obtain ⟨front, back, hblock⟩ := ih c hc hd
      obtain ⟨before, after, rfl⟩ := List.append_of_mem hc
      refine ⟨.group l (before ++ c :: after) :: (before.flatMap preorder ++ front),
        back ++ after.flatMap preorder, ?_⟩
      simp [preorder, hblock]

theorem exists_preorderAll_eq_append {cs : List Column} {d : Column} (hd : d ∈ preorderAll cs) :
    ∃ front back, preorderAll cs = front ++ d.preorder ++ back := by
  obtain ⟨c, hc, hd⟩ := mem_preorderAll.mp hd
  obtain ⟨front, back, hblock⟩ := exists_preorder_eq_append hd
  obtain ⟨before, after, rfl⟩ := List.append_of_mem hc
  refine ⟨before.flatMap preorder ++ front, back ++ after.flatMap preorder, ?_⟩
  simp [hblock]

end Column

namespace Tree

variable {t : Tree}

namespace WellFormed

variable (h : t.WellFormed)
include h

/-- The columns of a tree strictly below the path of one are those that it holds. -/
theorem mem_preorderAll_children_iff {g c : Column} (hg : g ∈ t.depthFirst) :
    c ∈ preorderAll g.children ↔ c ∈ t.depthFirst ∧ g.path.isAncestorOf c.path = true := by
  have hfind := h.find?_of_mem_depthFirst hg
  constructor
  · intro hc
    have hheld : c ∈ g.preorder := mem_preorder_iff.mpr (.inr hc)
    have hanch : g.Anchored := (h.path_of_find? hfind).2
    refine ⟨?_, hanch.isAncestorOf_of_mem hc⟩
    exact h.mem_depthFirst_of_find? (h.find?_of_mem_preorder hfind c hheld)
  · rintro ⟨hc, habove⟩
    obtain ⟨hstart, hne⟩ := Path.isAncestorOf_iff_ne.mp habove
    rcases mem_preorder_iff.mp (h.mem_preorder_of_startsWith hg hc hstart) with rfl | hc
    · exact absurd rfl hne
    · exact hc

/-- In the order of the tree, the columns strictly below one are those that its children hold. -/
theorem filter_isAncestorOf_depthFirst {g : Column} (hg : g ∈ t.depthFirst) :
    (t.depthFirst.filter fun c => g.path.isAncestorOf c.path) = preorderAll g.children := by
  obtain ⟨front, back, hblock⟩ := exists_preorderAll_eq_append hg
  rw [preorder_eq] at hblock
  have hsplit : t.depthFirst = (front ++ [g]) ++ preorderAll g.children ++ back := by
    rw [depthFirst, hblock]
    simp
  have hnodup : t.depthFirst.Nodup := h.nodup_paths_depthFirst.of_map path
  have hbelow : ∀ c ∈ t.depthFirst,
      g.path.isAncestorOf c.path = true ↔ c ∈ preorderAll g.children := by
    intro c hc
    rw [h.mem_preorderAll_children_iff hg, and_iff_right hc]
  rw [hsplit] at hnodup hbelow ⊢
  exact filter_eq_of_block hnodup hbelow

/-- A search inside a group goes through what the group holds. -/
theorem outcome_select_within_anyDepth {g : Column} (hg : g ∈ t.depthFirst)
    (hgroup : g.isGroup = true) (p : Predicate) (settings : Settings) :
    (t.select (.within (.path g.path) (.anyDepth p)) settings).outcome =
      .ok ((preorderAll g.children).filter fun c => p.holds c) := by
  have hfind := h.find?_of_mem_depthFirst hg
  have hsome : (t.find? g.path).isSome = true := Option.isSome_of_eq_some hfind
  have hpath : (Scope.atPath { tree := t, settings := settings } g.path).outcome = .ok [g] := by
    rw [outcome_atPath h (PrunesAll.refl _) hsome (.inr hsome), hfind]
    rfl
  rw [select, Selection.resolve, Logged.outcome_bind_eq_ok]
  refine ⟨[g], hpath, Logged.collect_eq_ok.mpr ⟨[_], .cons ?_ .nil, List.flatten_singleton.symm⟩⟩
  rw [Scope.descend, if_pos hgroup]
  exact congrArg Logged.outcome (Selection.resolve_anyDepth _ p)

end WellFormed

/-- At the root a search at any depth gives the columns of the tree that satisfy the predicate, in
the order of the tree and each once: these are reached through groups, so none of them stands in
the schema of a frame. Inside a group it gives those of them strictly below the group. -/
theorem select_anyDepth {columns : List Column} (ht : build columns = .ok t) (p : Predicate)
    (settings : Settings) :
    let found := t.depthFirst.filter fun c => p.holds c
    (t.select (.anyDepth p) settings).outcome = .ok found ∧ (found.map path).Nodup ∧
      (∀ c, c ∈ found ↔ (∃ names, ReachedBy t.columns names c) ∧ p.holds c = true) ∧
      (∀ f ∈ t.depthFirst, f.isFrame = true →
        ∀ c ∈ found, f.path.isAncestorOf c.path = false) ∧
      ∀ g ∈ t.depthFirst, g.isGroup = true →
        (t.select (.within (.path g.path) (.anyDepth p)) settings).outcome =
          .ok (found.filter fun c => g.path.isAncestorOf c.path) := by
  intro found
  have hwf := WellFormed.of_build ht
  refine ⟨?_, ?_, fun c => ?_, fun f hf hframe c hc => ?_, fun g hg hgroup => ?_⟩
  · exact congrArg Logged.outcome (Selection.resolve_anyDepth _ p)
  · exact (List.filter_sublist.map path).nodup hwf.nodup_paths_depthFirst
  · rw [List.mem_filter, depthFirst, mem_preorderAll_iff_reachedBy]
  · rw [Bool.eq_false_iff]
    intro habove
    have hheld := (hwf.mem_preorderAll_children_iff hf).mpr ⟨(List.mem_filter.mp hc).1, habove⟩
    cases f with
    | frame l s => cases hheld
    | value l t => cases hframe
    | group l cs => cases hframe
  · rw [hwf.outcome_select_within_anyDepth hg hgroup, List.filter_comm,
      hwf.filter_isAncestorOf_depthFirst hg]

/-- Columns of one name stand at the root, in a group, below that group and in the schema of a
frame. -/
theorem select_anyDepth_nested :
    let x := topValue "x" ⟨.int, false⟩
    let g := topGroup "g" [x, topGroup "h" [topFrame "f" [x], x]]
    let t : Tree := ⟨[g, x]⟩
    let p := Predicate.custom fun c => c.name == "x"
    build t.columns = .ok t ∧ g ∈ t.depthFirst ∧ g.isGroup = true ∧
      (∃ cs, (t.select (.anyDepth p) {}).outcome = .ok cs ∧
        cs.map path = [⟨["g", "x"]⟩, ⟨["g", "h", "x"]⟩, ⟨["x"]⟩]) ∧
      ∃ cs, (t.select (.within (.path g.path) (.anyDepth p)) {}).outcome = .ok cs ∧
        cs.map path = [⟨["g", "x"]⟩, ⟨["g", "h", "x"]⟩] := by
  intro x g t p
  have ht : build t.columns = .ok t := rfl
  have hg : g ∈ t.depthFirst := .head _
  obtain ⟨hroot, -, -, -, hgroup⟩ := select_anyDepth ht p {}
  exact ⟨ht, hg, rfl, ⟨_, hroot, rfl⟩, _, hgroup g hg rfl, rfl⟩

end Tree

end ColumnSelection
