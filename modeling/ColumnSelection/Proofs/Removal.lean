import ColumnSelection.Batch.Operator
import ColumnSelection.Proofs.Excluding
import ColumnSelection.Proofs.Projection
import ColumnSelection.Proofs.Referencing

/-!
# Removing columns from a batch

Removing columns by their paths always succeeds on a batch with a table. What becomes of a cell is
told by its path: nothing is left of it where the path or a prefix of it is removed, and otherwise
it stays, with null for a missing cell.
-/
namespace ColumnSelection

open Column Json

theorem Label.settled_eq_self {parent : Path} {l : Label}
    (h : l = ⟨l.name, parent.child l.name, none⟩) : l.settled parent = l := by
  have hshown : l.displayName = l.name := by rw [displayName, h]; rfl
  rw [settled, hshown, ← h]

theorem Column.settle_eq_self {parent : Path} {c : Column} (h : c.Bare parent) :
    c.settle parent = c := by
  induction c using Column.induct generalizing parent with
  | value l t => rw [settle, Label.settled_eq_self h]
  | frame l s => rw [settle, Label.settled_eq_self (bare_frame.mp h).1]
  | group l cs ih =>
    obtain ⟨hl, hcs⟩ := bare_group.mp h
    have hshown : l.displayName = l.name := h.displayName_eq
    rw [settle, Label.settled_eq_self hl, settleAll_eq_map, hshown]
    exact congrArg _ ((List.map_congr_left fun c hc => ih c hc (hcs c hc)).trans (List.map_id cs))

namespace Table

theorem repeatedName?_eq_none {seen : List String} {cs : List Column}
    (hcs : (cs.map displayName).Nodup) (hseen : ∀ c ∈ cs, c.displayName ∉ seen) :
    repeatedName? seen cs = none := by
  induction cs generalizing seen with
  | nil => rfl
  | cons c rest ih =>
    rw [List.map_cons, List.nodup_cons] at hcs
    rw [List.forall_mem_cons] at hseen
    rw [repeatedName?, if_neg hseen.1]
    refine ih hcs.2 fun d hd => ?_
    rw [List.mem_cons, not_or]
    exact ⟨fun he => hcs.1 (he ▸ List.mem_map_of_mem hd), hseen.2 d hd⟩

/-- A table can be projected onto columns that stand at its root under distinct names. -/
theorem project_eq (t : Table) {cs : List Column} (hcs : ∀ c ∈ cs, c.Bare .root)
    (hd : SiblingsDistinct cs) :
    t.project cs = .ok ⟨⟨cs⟩, t.records.map fun r => r.project cs⟩ := by
  have hshown : cs.map displayName = cs.map name :=
    List.map_congr_left fun c hc => (hcs c hc).displayName_eq
  have hnames : (cs.map displayName).Nodup := hshown ▸ (siblingsDistinct_iff.mp hd).1
  have hsettle : cs.map materialize = cs :=
    (List.map_congr_left fun c hc => settle_eq_self (hcs c hc)).trans (List.map_id cs)
  have hwf : Tree.WellFormed ⟨cs⟩ := ⟨fun c hc => ⟨(hcs c hc).path_eq, (hcs c hc).anchored⟩, hd⟩
  rw [project, repeatedName?_eq_none hnames (by simp), hsettle]
  exact bind_eq_ok.mpr ⟨_, hwf.build_columns, rfl⟩

end Table

namespace BatchOperator

theorem outcome_run {o : BatchOperator} {batch out : List Record}
    (h : (o.apply batch).outcome = .ok out) : (o.run batch).outcome = .ok out := by
  rw [run]
  generalize o.apply batch = result at h
  obtain ⟨outcome, notices⟩ := result
  cases outcome with
  | ok records => exact h
  | error e => cases h

/-- Removing the columns at some paths projects every record onto what exclusion leaves. -/
theorem outcome_run_remove {batch : List Record} (hbatch : batch ≠ []) {t whole : Tree}
    (ht : Tree.infer batch = .ok t) (hwhole : whole.WellFormed)
    (h : PrunesAll t.columns whole.columns) {paths : List Path}
    (hpaths : ∀ p ∈ paths, (whole.find? p).isSome) (settings : Settings)
    (hs : settings.unresolved = .skip ∨ ∀ p ∈ paths, (t.find? p).isSome) :
    ((remove (.columns (paths.map .path)) settings).run batch).outcome =
      .ok (batch.map fun r => r.project (exceptColumns t.columns (t.held paths))) := by
  have hwf := Tree.WellFormed.of_infer ht
  set columns := exceptColumns t.columns (t.held paths)
  have hprune : PrunesAll columns t.columns := excludeAll_prunesAll _ _
  have hbare : ∀ c ∈ columns, c.Bare .root := Bare.prune_of_mem hprune (Tree.bare_of_infer ht)
  have hdistinct : ColumnSelection.distinct columns = columns :=
    (hwf.prune hprune).distinct_columns
  have hselect := Tree.outcome_select_allExcept hwhole h hwf hpaths hs
  rw [hdistinct] at hselect
  have hproject := (Table.mk t batch).project_eq hbare (hwf.distinct.prune hprune)
  have htable : ((Table.mk t batch).select (.allExcept (.columns (paths.map .path)))
      settings).outcome = .ok ⟨⟨columns⟩, batch.map fun r => r.project columns⟩ :=
    Logged.outcome_bind_eq_ok.mpr ⟨columns, hselect, hproject⟩
  refine outcome_run ?_
  rw [apply, if_neg (by simpa using hbatch)]
  refine Logged.outcome_bind_eq_ok.mpr ⟨⟨t, batch⟩, bind_eq_ok.mpr ⟨t, ht, rfl⟩, ?_⟩
  exact Logged.outcome_bind_eq_ok.mpr ⟨_, htable, rfl⟩

end BatchOperator

/-- The cell at the path of a column in a narrowed object is the narrowed cell where the column is
left, and nothing where it is not. -/
theorem cellAt_narrowAll {ds cs : List Column} (h : PrunesAll ds cs) (hcs : SiblingsDistinct cs)
    {names : List String} (hwhole : (Tree.lookup cs names).isSome) (j : Json) :
    (Tree.lookup ds names = none → Record.cellAt (obj (narrowAll ds j)) names = none) ∧
      ∀ d, Tree.lookup ds names = some d →
        (Record.cellAt (obj (narrowAll ds j)) names).getD .null =
          d.narrow ((Record.cellAt j names).getD .null) := by
  induction names generalizing ds cs j with
  | nil => simp at hwhole
  | cons n rest ih =>
    obtain ⟨hnames, hbelow⟩ := siblingsDistinct_iff.mp hcs
    rcases eq_or_ne rest [] with rfl | hrest
    · rw [Record.cellAt_cons, Record.cellAt_cons, Json.get?, get?_narrowAll_eq,
        Tree.lookup_singleton]
      cases ds.find? (·.name == n) with
      | none => simp
      | some d => cases hj : j.get? n <;> simp [Record.cellAt]
    · rw [Record.cellAt_cons_getD _ _ hrest, Record.cellAt_cons_getD j _ hrest, Json.get?,
        get?_narrowAll_eq, Tree.lookup_cons hrest]
      cases hd : ds.find? (·.name == n) with
      | none => simp [Record.cellAt_null hrest]
      | some d =>
        obtain ⟨c, hc, hdc⟩ := Tree.find?_name_prune h hnames hd
        rw [Tree.lookup_cons hrest, hc, Option.bind_some] at hwhole
        rw [Option.map_some, Option.bind_some, Option.getD_some]
        generalize (j.get? n).getD .null = x
        have hne := Tree.children_ne_nil_of_lookup (Option.eq_some_of_isSome hwhole)
        cases hdc with
        | value l t => exact absurd rfl hne
        | frame l s => exact absurd rfl hne
        | group l h =>
          have hchildren := (hbelow _ (List.mem_of_find?_eq_some hc)).children
          rw [narrow_group]
          split_ifs with hnull
          · obtain rfl := isNull_iff.mp hnull
            rw [Record.cellAt_null hrest]
            exact ⟨fun _ => rfl, fun b _ => (narrow_null b).symm⟩
          · exact ih h hchildren hwhole x

namespace Tree

variable {t : Tree}

theorem WellFormed.path_ne_root (h : t.WellFormed) {p : Path}
    (hp : p ∈ t.depthFirst.map path) : p ≠ .root := by
  rintro rfl
  have hfound := h.isSome_find?_of_mem hp
  simp [find?] at hfound

/-- Below the root, the paths on the way from a column at the top are those that the lower path
starts with. -/
theorem WellFormed.isBetween_iff (h : t.WellFormed) {c d : Column}
    (hc : c ∈ t.columns) (hd : d ∈ c.preorder) {p : Path} (hp : p ≠ .root) :
    Path.isBetween c.path d.path p = d.path.startsWith p := by
  rw [Bool.eq_iff_iff, Path.isBetween_iff]
  refine ⟨And.right, fun hdp => ⟨?_, hdp⟩⟩
  obtain ⟨hpath, hanch⟩ := h.placed c hc
  have hdc := (hanch.of_mem_preorder d hd).1
  rw [Path.startsWith_iff_segments] at hdp hdc ⊢
  refine List.prefix_of_prefix_length_le hdc hdp ?_
  have hne : p.segments ≠ [] := fun he => hp (Path.ext he)
  rw [hpath]
  exact List.length_pos_iff.mpr hne

/-- The leaves of what exclusion leaves are those with no excluded path as a prefix, in order. -/
theorem WellFormed.leavesAll_exceptColumns (h : t.WellFormed) {paths : List Path}
    (hpaths : ∀ p ∈ paths, p ≠ .root) :
    leavesAll (exceptColumns t.columns paths) =
      (leavesAll t.columns).filter fun l => !paths.any l.path.startsWith := by
  rw [exceptColumns, leavesAll_excludeAll fun c hc => (h.placed c hc).2, leavesAll_eq_flatMap,
    List.filter_flatMap]
  refine List.flatMap_congr fun c hc => List.filter_congr fun l hl => ?_
  congr 1
  rw [Bool.eq_iff_iff, List.any_eq_true, List.any_eq_true]
  refine exists_congr fun p => and_congr_right fun hp => ?_
  rw [h.isBetween_iff hc (mem_preorder_of_mem_leaves hl) (hpaths p hp)]

theorem WellFormed.mem_depthFirst_exceptColumns (h : t.WellFormed) {paths : List Path}
    (hpaths : ∀ p ∈ paths, p ≠ .root) {d : Column} (hd : d.isGroup = false) :
    d ∈ (Tree.mk (exceptColumns t.columns paths)).depthFirst ↔
      d ∈ t.depthFirst ∧ ¬ paths.any d.path.startsWith := by
  have hleaf : ∀ cs : List Column, d ∈ preorderAll cs ↔ d ∈ leavesAll cs := fun cs => by
    simp [leavesAll, hd]
  rw [depthFirst, depthFirst, hleaf, hleaf, h.leavesAll_exceptColumns hpaths, List.mem_filter,
    Bool.not_eq_true', Bool.not_eq_true]

/-- A leaf is found in what exclusion leaves when no excluded path is a prefix of its path. -/
theorem WellFormed.find?_exceptColumns (h : t.WellFormed) {paths : List Path}
    (hpaths : ∀ p ∈ paths, p ≠ .root) {c : Column} (hc : c ∈ t.depthFirst)
    (hleaf : c.isGroup = false) :
    (Tree.mk (exceptColumns t.columns paths)).find? c.path =
      if paths.any c.path.startsWith then none else some c := by
  have hprune : PrunesAll (exceptColumns t.columns paths) t.columns := excludeAll_prunesAll _ _
  have hmem := h.mem_depthFirst_exceptColumns hpaths hleaf
  split_ifs with hany
  · rw [Option.eq_none_iff_forall_ne_some]
    intro d hd
    obtain ⟨b, hb, hdb⟩ := lookup_prune hprune h.distinct hd
    obtain rfl : c = b := Option.some.inj ((h.find?_of_mem_depthFirst hc).symm.trans hb)
    obtain rfl := hdb.eq_of_not_isGroup hleaf
    exact (hmem.mp ((h.prune hprune).mem_depthFirst_of_find? hd)).2 hany
  · exact (h.prune hprune).find?_of_mem_depthFirst (hmem.mpr ⟨hc, hany⟩)

end Tree

/-- The record has the cells of another outside of the columns at some paths of a tree, nothing of
these columns, and no further keys in its objects. -/
structure Record.IsWithout (t : Tree) (paths : List Path) (r s : Record) : Prop where
  id_eq : s.id = r.id
  removed : ∀ c ∈ t.depthFirst, c.isGroup = false → (∃ p ∈ paths, c.path.startsWith p) →
    s.valueAt c.path = none
  kept : ∀ c ∈ t.depthFirst, c.isGroup = false → (∀ p ∈ paths, ¬ c.path.startsWith p) →
    (s.valueAt c.path).getD .null = (r.valueAt c.path).getD .null
  keys_root : ∀ fields, s.payload = .obj fields →
    ∀ key ∈ fields.map Prod.fst, Path.root.child key ∈ t.depthFirst.map path
  keys_group : ∀ g ∈ t.depthFirst, g.isGroup → ∀ fields, s.valueAt g.path = some (.obj fields) →
    ∀ key ∈ fields.map Prod.fst, g.path.child key ∈ t.depthFirst.map path

theorem Record.isWithout_project (r : Record) {t : Tree} (h : t.WellFormed)
    (hbare : ∀ c ∈ t.columns, c.Bare .root) {paths : List Path}
    (hpaths : ∀ p ∈ paths, p ∈ t.depthFirst.map path) :
    r.IsWithout t paths (r.project (exceptColumns t.columns paths)) := by
  have hprune : PrunesAll (exceptColumns t.columns paths) t.columns := excludeAll_prunesAll _ _
  have hkept := Bare.prune_of_mem hprune hbare
  have hroot : ∀ p ∈ paths, p ≠ .root := fun p hp => h.path_ne_root (hpaths p hp)
  have hwhole : ∀ c ∈ t.depthFirst, (Tree.lookup t.columns c.path.segments).isSome :=
    fun c hc => h.isSome_find?_of_mem (List.mem_map_of_mem hc)
  have hcell := fun c hc => cellAt_narrowAll hprune h.distinct (hwhole c hc) r.payload
  rw [project_eq_narrowAll r hkept (h.distinct.prune hprune)]
  refine ⟨rfl, fun c hc hleaf hp => ?_, fun c hc hleaf hp => ?_, ?_, ?_⟩
  · refine (hcell c hc).1 ((h.find?_exceptColumns hroot hc hleaf).trans (if_pos ?_))
    exact List.any_eq_true.mpr hp
  · have hfind : (Tree.mk (exceptColumns t.columns paths)).find? c.path = some c :=
      (h.find?_exceptColumns hroot hc hleaf).trans (if_neg (by simpa using hp))
    exact ((hcell c hc).2 c hfind).trans (narrow_of_not_isGroup hleaf _)
  · intro fields he key hkey
    cases he
    rw [keys_narrowAll] at hkey
    obtain ⟨c, hc, rfl⟩ := List.mem_map.mp (hprune.names.subset hkey)
    have hmem := h.mem_depthFirst_of_find? (h.find?_of_mem_columns hc)
    exact List.mem_map.mpr ⟨c, hmem, (h.placed c hc).1⟩
  · intro g hg hgroup fields he key hkey
    have hfind := h.find?_of_mem_depthFirst hg
    cases hd : Tree.lookup (exceptColumns t.columns paths) g.path.segments with
    | none =>
      rw [valueAt, (hcell g hg).1 hd] at he
      cases he
    | some d =>
      have hnarrow := (hcell g hg).2 d hd
      rw [valueAt] at he
      rw [he, Option.getD_some] at hnarrow
      obtain ⟨g', hg', hdg⟩ := Tree.lookup_prune hprune h.distinct hd
      obtain rfl : g = g' := Option.some.inj (hfind.symm.trans hg')
      rw [keys_of_narrow (hdg.isGroup_eq.trans hgroup) hnarrow.symm] at hkey
      obtain ⟨a, ha, rfl⟩ := List.mem_map.mp (hdg.children.names.subset hkey)
      have hmem := h.mem_depthFirst_of_find? (h.find?_of_mem_children hfind ha)
      exact List.mem_map.mpr ⟨a, hmem, ((h.path_of_find? hfind).2.children a ha).1⟩

namespace BatchOperator

/-- Removing columns by their paths keeps the records in their order with their identifiers, and
leaves of each record exactly the cells outside of the removed columns. -/
theorem remove_isWithout {batch : List Record} (hbatch : batch ≠ []) {table : Table}
    (htable : Table.ofRecords batch = .ok table) {paths : List Path}
    (hpaths : ∀ p ∈ paths, p ∈ table.tree.depthFirst.map Column.path) (settings : Settings) :
    ∃ out, ((remove (.columns (paths.map .path)) settings).run batch).outcome = .ok out ∧
      List.Forall₂ (Record.IsWithout table.tree paths) batch out := by
  obtain ⟨t, ht, he⟩ := bind_eq_ok.mp htable
  cases he
  have hwf := Tree.WellFormed.of_infer ht
  have hfound : ∀ p ∈ paths, (t.find? p).isSome := fun p hp => hwf.isSome_find?_of_mem (hpaths p hp)
  have hrun := outcome_run_remove hbatch ht hwf (PrunesAll.refl _) hfound settings (.inr hfound)
  rw [Tree.held_eq_self hfound] at hrun
  refine ⟨_, hrun, List.forall₂_map_right_iff.mpr (List.forall₂_same.mpr fun r _ => ?_)⟩
  exact r.isWithout_project hwf (Tree.bare_of_infer ht) hpaths

/-- A nested column is removed from rows with a missing key and a null group. -/
theorem remove_isWithout_nested :
    let x := topValue "x" ⟨.int, false⟩
    let y := topValue "y" ⟨.string, false⟩
    let batch : List Record :=
      [⟨some "1", .obj [("a", .int 1), ("g", .obj [("x", .int 2), ("y", .str "s")])]⟩,
        ⟨none, .obj [("g", .null)]⟩]
    let table : Table := ⟨⟨[topValue "a" ⟨.int, true⟩, topGroup "g" [x, y]]⟩, batch⟩
    let paths : List Path := [⟨["g", "x"]⟩]
    batch ≠ [] ∧ Table.ofRecords batch = .ok table ∧
      (∀ p ∈ paths, p ∈ table.tree.depthFirst.map Column.path) ∧
      ∃ out, ((remove (.columns (paths.map .path)) {}).run batch).outcome = .ok out ∧
        List.Forall₂ (Record.IsWithout table.tree paths) batch out := by
  intro x y batch table paths
  have hbatch : batch ≠ [] := List.cons_ne_nil _ _
  have htable : Table.ofRecords batch = .ok table := rfl
  have hpaths : ∀ p ∈ paths, p ∈ table.tree.depthFirst.map Column.path := by decide
  exact ⟨hbatch, htable, hpaths, remove_isWithout hbatch htable hpaths {}⟩

end BatchOperator

end ColumnSelection
