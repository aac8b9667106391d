import ColumnSelection.Proofs.GroupScope
import ColumnSelection.Proofs.ProjectedCells
import ColumnSelection.Proofs.Removal
import ColumnSelection.Proofs.Simplifying
import ColumnSelection.Proofs.TreeIdentity

/-!
# Names in a projection

A projection is refused exactly when two columns beside each other would be shown under one name, at
the top or in a group at any depth. Otherwise every object that it writes has one entry for each of
its columns, so no cell is written over another one.
-/
namespace ColumnSelection

open Column Json

namespace Column

/-- No two columns of the list are shown under one name, and no two children of a group at or below
them. -/
def ShownDistinct (cs : List Column) : Prop :=
  (cs.map displayName).Nodup ∧ ∀ g ∈ preorderAll cs, (g.children.map displayName).Nodup

theorem shownDistinct_children {cs : List Column} (h : ShownDistinct cs) {g : Column}
    (hg : g ∈ cs) : ShownDistinct g.children := by
  refine ⟨h.2 g (mem_preorderAll.mpr ⟨g, hg, g.self_mem_preorder⟩), fun d hd => h.2 d ?_⟩
  exact mem_preorderAll.mpr ⟨g, hg, mem_preorder_iff.mpr (.inr hd)⟩

/-- Settled, a column has distinct names below it when its groups show distinct names: the names in
frame schemas stay as they are. -/
theorem namesDistinct_settle_iff {c : Column} (h : c.NamesDistinct) (parent : Path) :
    (c.settle parent).NamesDistinct ↔ ∀ g ∈ c.preorder, (g.children.map displayName).Nodup := by
  induction c using Column.induct generalizing parent with
  | value l t => simp [settle, preorder]
  | frame l s => exact iff_of_true h (by simp [preorder])
  | group l cs ih =>
    have hbelow := (siblingsDistinct_iff.mp h).2
    rw [settle, settleAll_eq_map, namesDistinct_group, siblingsDistinct_iff, map_name_settle,
      List.forall_mem_map, preorder_eq, List.forall_mem_cons, preorderAll_eq_flatMap]
    simp only [List.forall_mem_flatMap, children_group]
    exact and_congr_right fun _ => forall₂_congr fun c hc => ih c hc (hbelow c hc) _

theorem siblingsDistinct_map_settle_iff {cs : List Column} (h : ∀ c ∈ cs, c.NamesDistinct)
    (parent : Path) : SiblingsDistinct (cs.map (settle parent)) ↔ ShownDistinct cs := by
  rw [siblingsDistinct_iff, map_name_settle, List.forall_mem_map, ShownDistinct,
    preorderAll_eq_flatMap]
  simp only [List.forall_mem_flatMap]
  exact and_congr_right fun _ => forall₂_congr fun c hc => namesDistinct_settle_iff (h c hc) _

theorem anchored_unnamed (c : Column) : c.unnamed.Anchored ↔ c.Anchored := by
  induction c using Column.induct with
  | value l t => rfl
  | frame l s => rfl
  | group l cs ih =>
    simp only [unnamed, unnamedAll_eq_map, anchored_group, List.forall_mem_map, path_unnamed,
      name_unnamed]
    exact forall₂_congr fun c hc => and_congr_right fun _ => ih c hc

theorem namesDistinct_unnamed (c : Column) : c.unnamed.NamesDistinct ↔ c.NamesDistinct := by
  have hall : ∀ cs : List Column, (∀ c ∈ cs, c.unnamed.NamesDistinct ↔ c.NamesDistinct) →
      (SiblingsDistinct (cs.map unnamed) ↔ SiblingsDistinct cs) := by
    intro cs h
    rw [siblingsDistinct_iff, siblingsDistinct_iff, List.map_map, List.forall_mem_map]
    simp only [Function.comp_def, name_unnamed]
    exact and_congr_right fun _ => forall₂_congr h
  induction c using Column.induct with
  | value l t => rfl
  | frame l s ih =>
    rw [unnamed, unnamedAll_eq_map]
    exact hall s ih
  | group l cs ih =>
    rw [unnamed, unnamedAll_eq_map]
    exact hall cs ih

theorem unnamed_withLabel (c : Column) (shown : Option String) :
    (c.withLabel { c.label with shownAs := shown }).unnamed = c.unnamed := by
  cases c <;> rfl

theorem PrunesAll.map_of {f : Column → Column} {ds cs : List Column} (h : PrunesAll ds cs)
    (hf : ∀ c ∈ cs, ∀ d, d.Prunes c → (f d).Prunes (f c)) : PrunesAll (ds.map f) (cs.map f) := by
  induction h with
  | nil => exact .nil
  | cons hdc _ ih =>
    rw [List.forall_mem_cons] at hf
    exact .cons (hf.1 _ hdc) (ih hf.2)
  | cons_right _ ih => exact .cons_right (ih fun c hc => hf c (List.mem_cons_of_mem _ hc))

theorem Prunes.unnamed {d c : Column} (h : d.Prunes c) : d.unnamed.Prunes c.unnamed := by
  induction c using Column.induct generalizing d with
  | value l t =>
    cases h
    exact .refl _
  | frame l s =>
    cases h
    exact .refl _
  | group l cs ih =>
    cases h with
    | group l h =>
      rw [Column.unnamed, Column.unnamed, unnamedAll_eq_map, unnamedAll_eq_map]
      exact .group _ (PrunesAll.map_of h fun c hc d hdc => ih c hc hdc)

end Column

namespace Tree

/-- The column comes from the tree's column at its path by leaving out columns below it and by
giving display names, at any depth. -/
def HasRenamed (t : Tree) (c : Column) : Prop :=
  ∃ node, t.find? c.path = some node ∧ c.unnamed.Prunes node.unnamed

variable {t : Tree} {c : Column}

theorem HasPruning.hasRenamed (h : t.HasPruning c) : t.HasRenamed c := by
  obtain ⟨node, hnode, hprune⟩ := h
  have hunnamed := hprune.unnamed
  rw [shownLike, unnamed_withLabel] at hunnamed
  exact ⟨node, hnode, hunnamed⟩

/-- What a selection resolves to comes from the tree by pruning and renaming, if that is true of the
columns that it brings along. -/
theorem WellFormed.hasRenamed_of_select (ht : t.WellFormed) {selection : Selection}
    (he : ∀ c ∈ selection.embedded, t.HasPruning c) {settings : Settings} {cs : List Column}
    (h : (t.select selection settings).outcome = .ok cs) : ∀ c ∈ cs, t.HasRenamed c := by
  intro c hc
  have hprunes := Selection.forall_resolve ht.hereditary_hasPruning
    (fun _ => ht.hasPruning_of_mem) he h
  exact (hprunes c hc).hasRenamed

theorem HasRenamed.anchored (h : t.HasRenamed c) (ht : t.WellFormed) : c.Anchored := by
  obtain ⟨node, hnode, hprune⟩ := h
  have hanch := (anchored_unnamed node).mpr (ht.path_of_find? hnode).2
  exact (anchored_unnamed c).mp (hanch.prune hprune)

theorem WellFormed.namesDistinct_of_find? (ht : t.WellFormed) {p : Path}
    (hc : t.find? p = some c) : c.NamesDistinct := by
  obtain ⟨b, hb, hc⟩ := mem_preorderAll.mp (ht.mem_depthFirst_of_find? hc)
  exact ((hereditary_below .root).preorder (ht.below_root b hb) c hc).names

theorem HasRenamed.namesDistinct (h : t.HasRenamed c) (ht : t.WellFormed) : c.NamesDistinct := by
  obtain ⟨node, hnode, hprune⟩ := h
  have hnames := (namesDistinct_unnamed node).mpr (ht.namesDistinct_of_find? hnode)
  exact (namesDistinct_unnamed c).mp (hnames.prune hprune)

end Tree

namespace Record

variable {r : Record}

/-- An object with one entry for each column: the projected cell of that column, under its display
name, which no other one has. -/
def HoldsEach (r : Record) (cs : List Column) (j : Json) : Prop :=
  (cs.map displayName).Nodup ∧ j = .obj (cs.map fun c => (c.displayName, r.projectCell c))

theorem holdsEach_projectCells {cs : List Column} (h : (cs.map displayName).Nodup) :
    r.HoldsEach cs (.obj (Entries.ofList (r.projectCells cs))) :=
  ⟨h, by rw [ofList_projectCells h, projectCells_eq_map]⟩

/-- In the projected row the display names of a group lead to the object written for it, unless its
own cell is null or missing. -/
theorem cellAt_projectCells_group {cs : List Column} {names : List String} {g : Column}
    (hcs : ShownDistinct cs) (hanch : ∀ c ∈ cs, c.Anchored) (h : ShownAt cs names g)
    (hg : g.isGroup = true) (hpresent : ((r.valueAt g.path).getD .null).isNull = false) :
    ∃ j, cellAt (.obj (Entries.ofList (r.projectCells cs))) names = some j ∧
      r.HoldsEach g.children j := by
  induction h with
  | @here cs g hmem =>
    rw [cellAt_cons, get?_projectCells hcs.1 hmem, Option.bind_some, projectCell_of_isGroup r hg,
      hpresent]
    exact ⟨_, rfl, holdsEach_projectCells (shownDistinct_children hcs hmem).1⟩
  | @within cs outer names g hmem h ih =>
    have houter : ((r.valueAt outer.path).getD .null).isNull = false := by
      -- Below a cell that is null or missing the row has none, so not that of the inner group.
      rw [← Bool.not_eq_true]
      intro hnull
      have habove := (hanch outer hmem).isAncestorOf_of_mem h.mem_preorderAll
      rw [valueAt_of_isAncestorOf habove hnull] at hpresent
      cases hpresent
    rw [cellAt_cons, get?_projectCells hcs.1 hmem, Option.bind_some,
      projectCell_of_isGroup r h.isGroup, houter]
    exact ih (shownDistinct_children hcs hmem) (fun c hc => ((hanch outer hmem).children c hc).2)
      hg hpresent

end Record

namespace Table

theorem schemaFaultOnly_project (t : Table) (cs : List Column) :
    SchemaFaultOnly (t.project cs) := by
  rw [project]
  split
  · exact .fault _
  · exact .bind (Tree.schemaFaultOnly_build _) fun _ => .ok _

/-- Columns without repeated names in frame schemas can be projected exactly if they are shown under
distinct names. -/
theorem exists_project_iff (t : Table) {cs : List Column} (h : ∀ c ∈ cs, c.NamesDistinct) :
    (∃ out, t.project cs = .ok out) ↔ ShownDistinct cs := by
  constructor
  · rintro ⟨out, hout⟩
    obtain ⟨rfl, hwf⟩ := project_eq_ok hout
    exact (siblingsDistinct_map_settle_iff h .root).mp hwf.distinct
  · intro hshown
    obtain ⟨tree, htree⟩ := (Tree.exists_build_iff (cs.map materialize)).mpr
      ((siblingsDistinct_map_settle_iff h .root).mpr hshown)
    rw [project, repeatedName?_eq_none hshown.1 (by simp)]
    exact ⟨_, bind_eq_ok.mpr ⟨tree, htree, rfl⟩⟩

/-- A projection onto columns that come from a tree by pruning and renaming fails, with a fault of
the schema, exactly when two columns beside each other are shown under one name. Otherwise each row
is written without overwriting a cell: it has an entry for each column of the list, and in it each
group whose cell was neither missing nor null has one for each of its children. -/
theorem project_refused_iff {columns : List Column} {tree : Tree}
    (htree : Tree.build columns = .ok tree) (t : Table) {cs : List Column}
    (hcs : ∀ c ∈ cs, tree.HasRenamed c) :
    ((∃ fault, t.project cs = .error (.schema fault)) ↔ ¬ ShownDistinct cs) ∧
      (ShownDistinct cs → ∃ out, t.project cs = .ok out ∧
        List.Forall₂ (fun r r' : Record => r.HoldsEach cs r'.payload ∧
          ∀ names g, ShownAt cs names g → g.isGroup = true →
            ∀ j, r.valueAt g.path = some j → j ≠ .null →
              ∃ j', r'.valueAt ⟨names⟩ = some j' ∧ r.HoldsEach g.children j')
          t.records out.records) := by
  have hwf := Tree.WellFormed.of_build htree
  have hproject := exists_project_iff t fun c hc => (hcs c hc).namesDistinct hwf
  constructor
  · rw [← hproject]
    constructor
    · rintro ⟨fault, hfault⟩ ⟨out, hout⟩
      rw [hfault] at hout
      cases hout
    · intro hnot
      exact (schemaFaultOnly_project t cs).exists_fault fun out hout => hnot ⟨out, hout⟩
  · intro hshown
    obtain ⟨out, hout⟩ := hproject.mpr hshown
    refine ⟨out, hout, ?_⟩
    obtain ⟨rfl, -⟩ := project_eq_ok hout
    rw [List.forall₂_map_right_iff, List.forall₂_same]
    intro r _
    refine ⟨Record.holdsEach_projectCells hshown.1, fun names g hnames hg j hj hnull => ?_⟩
    have hpresent : ((r.valueAt g.path).getD .null).isNull = false := by
      rw [hj, Option.getD_some, ← Bool.not_eq_true, isNull_iff]
      exact hnull
    exact Record.cellAt_projectCells_group hshown (fun c hc => (hcs c hc).anchored hwf) hnames hg
      hpresent

/-- Two children of a group share a display name, which the tree allows and a projection refuses.
Without one of them the group is projected, beside a frame under another name. -/
theorem project_refused_iff_children :
    let x := Column.value ⟨"x", ⟨["g", "x"]⟩, some "y"⟩ ⟨.int, false⟩
    let y := Column.value ⟨"y", ⟨["g", "y"]⟩, none⟩ ⟨.any, true⟩
    let z := Column.value ⟨"z", ⟨["g", "h", "z"]⟩, none⟩ ⟨.int, true⟩
    let h := Column.group ⟨"h", ⟨["g", "h"]⟩, none⟩ [z]
    let g := Column.group ⟨"g", ⟨["g"]⟩, none⟩ [x, y, h]
    let kept := Column.group ⟨"g", ⟨["g"]⟩, none⟩ [x, h]
    let f := topFrame "f" [topValue "n" ⟨.int, false⟩]
    let tree : Tree := ⟨[g, f]⟩
    let cs := [kept, f.named "k"]
    let selection := Selection.and (.except (.columns [.path ⟨["g"]⟩]) (.columns [.path y.path]))
      (.named (.columns [.path ⟨["f"]⟩]) "k")
    let t : Table := ⟨tree,
      [⟨none, .obj [("g", .obj [("x", .int 1), ("h", .obj []), ("y", .bool true)])]⟩,
        ⟨some "2", .obj [("g", .null)]⟩]⟩
    Tree.build tree.columns = .ok tree ∧ (tree.select .all {}).outcome = .ok [g, f] ∧
      (∀ c ∈ [g, f], tree.HasRenamed c) ∧ ¬ ShownDistinct [g, f] ∧
      (∃ fault, t.project [g, f] = .error (.schema fault)) ∧
      (tree.select selection {}).outcome = .ok cs ∧
      (∀ c ∈ cs, tree.HasRenamed c) ∧ ShownDistinct cs ∧
      ∃ out, t.project cs = .ok out ∧
        List.Forall₂ (fun r r' : Record => r.HoldsEach cs r'.payload ∧
          ∀ names g, ShownAt cs names g → g.isGroup = true →
            ∀ j, r.valueAt g.path = some j → j ≠ .null →
              ∃ j', r'.valueAt ⟨names⟩ = some j' ∧ r.HoldsEach g.children j')
          t.records out.records := by
  intro x y z h g kept f tree cs selection t
  have htree : Tree.build tree.columns = .ok tree := rfl
  have hwf := Tree.WellFormed.of_build htree
  have hall : (tree.select .all {}).outcome = .ok [g, f] := rfl
  have hwhole := hwf.hasRenamed_of_select (by simp [Selection.embedded]) hall
  have hsame : ¬ ShownDistinct [g, f] := by
    intro hshown
    have hchildren := hshown.2 g (by simp [g, preorder])
    exact absurd hchildren (by decide)
  have hselect : (tree.select selection {}).outcome = .ok cs := rfl
  have hpruned := hwf.hasRenamed_of_select
    (by simp [selection, Selection.embedded, Reference.embedded]) hselect
  have hshown : ShownDistinct cs := by
    constructor
    · decide
    · decide
  exact ⟨htree, hall, hwhole, hsame, (project_refused_iff htree t hwhole).1.mpr hsame, hselect,
    hpruned, hshown, (project_refused_iff htree t hpruned).2 hshown⟩

end Table

end ColumnSelection
