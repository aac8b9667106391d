import ColumnSelection.Proofs.Projection
import ColumnSelection.Proofs.TreeLookup
import ColumnSelection.Table.Basic

/-!
# Cells of a projected table

A projection makes its tree and its rows by separate recursions over the columns. Both use display
names, and so agree: the display names on the way to a column lead, in the new tree, to a column of
the same kind and type, and in every new row to the cell that the row had at the column's path.
-/
namespace ColumnSelection

open Column Json

namespace Column

/-- The column is reached from the columns of a list through groups, under these display names. -/
inductive ShownAt : List Column → List String → Column → Prop
  | here {cs c} : c ∈ cs → ShownAt cs [c.displayName] c
  | within {cs g names c} : g ∈ cs → ShownAt g.children names c →
      ShownAt cs (g.displayName :: names) c

theorem ShownAt.ne_nil {cs : List Column} {names : List String} {c : Column}
    (h : ShownAt cs names c) : names ≠ [] := by
  cases h <;> exact List.cons_ne_nil _ _

theorem ShownAt.isGroup {g c : Column} {names : List String} (h : ShownAt g.children names c) :
    g.isGroup = true := by
  cases g with
  | group l cs => rfl
  | value l t => cases h <;> contradiction
  | frame l s => cases h <;> contradiction

theorem ShownAt.mem_preorderAll {cs : List Column} {names : List String} {c : Column}
    (h : ShownAt cs names c) : c ∈ preorderAll cs := by
  induction h with
  | here hc => exact Column.mem_preorderAll.mpr ⟨_, hc, self_mem_preorder _⟩
  | within hg _ ih => exact Column.mem_preorderAll.mpr ⟨_, hg, mem_preorder_iff.mpr (.inr ih)⟩

section settle

variable (parent : Path) (c : Column)

theorem label_settle : (c.settle parent).label = c.label.settled parent := by
  cases c <;> rfl

@[simp] theorem name_settle : (c.settle parent).name = c.displayName := by
  rw [name, label_settle]
  rfl

@[simp] theorem path_settle : (c.settle parent).path = parent.child c.displayName := by
  rw [path, label_settle]
  rfl

@[simp] theorem kind_settle : (c.settle parent).kind = c.kind := by
  cases c <;> rfl

@[simp] theorem type?_settle : (c.settle parent).type? = c.type? := by
  cases c <;> rfl

@[simp] theorem schema?_settle : (c.settle parent).schema? = c.schema? := by
  cases c <;> rfl

theorem children_settle :
    (c.settle parent).children = c.children.map (settle (parent.child c.displayName)) := by
  cases c with
  | value l t => rfl
  | frame l s => rfl
  | group l cs => exact settleAll_eq_map _ cs

theorem anchored_settle : (c.settle parent).Anchored := by
  induction c using Column.induct generalizing parent with
  | value l t => trivial
  | frame l s => trivial
  | group l cs ih =>
    rw [settle, settleAll_eq_map, anchored_group]
    intro d hd
    obtain ⟨b, hb, rfl⟩ := List.mem_map.mp hd
    exact ⟨by simp [Label.settled], ih b hb _⟩

/-- A settled column stands in its place. -/
theorem rebase_settle : (c.settle parent).rebase parent = c.settle parent :=
  rebase_eq_self (by simp) (anchored_settle parent c)

end settle

theorem map_name_settle (parent : Path) (cs : List Column) :
    (cs.map (settle parent)).map name = cs.map displayName := by
  rw [List.map_map]
  exact List.map_congr_left fun c _ => name_settle parent c

/-- Siblings that are distinct once settled have distinct display names. -/
theorem nodup_displayName {parent : Path} {cs : List Column}
    (h : SiblingsDistinct (cs.map (settle parent))) : (cs.map displayName).Nodup := by
  rw [← map_name_settle parent]
  exact (siblingsDistinct_iff.mp h).1

theorem siblingsDistinct_children {parent : Path} {cs : List Column}
    (h : SiblingsDistinct (cs.map (settle parent))) {c : Column} (hc : c ∈ cs) :
    SiblingsDistinct (c.children.map (settle (parent.child c.displayName))) := by
  rw [← children_settle]
  exact ((siblingsDistinct_iff.mp h).2 _ (List.mem_map_of_mem hc)).children

end Column

namespace Tree

theorem find?_displayName {parent : Path} {cs : List Column}
    (hcs : SiblingsDistinct (cs.map (settle parent))) {c : Column} (hc : c ∈ cs) :
    (cs.map (settle parent)).find? (·.name == c.displayName) = some (c.settle parent) := by
  rw [← name_settle parent c]
  exact find?_name_of_mem (siblingsDistinct_iff.mp hcs).1 (List.mem_map_of_mem hc)

/-- Among settled columns, display names lead to the column that is shown under them. -/
theorem lookup_settle {parent : Path} {cs : List Column} {names : List String} {c : Column}
    (hcs : SiblingsDistinct (cs.map (settle parent))) (h : ShownAt cs names c) :
    ∃ place, lookup (cs.map (settle parent)) names = some (c.settle place) := by
  induction h generalizing parent with
  | here hc => exact ⟨parent, by rw [lookup_singleton, find?_displayName hcs hc]⟩
  | within hg h ih =>
    rw [lookup_cons h.ne_nil, find?_displayName hcs hg, Option.bind_some, children_settle]
    exact ih (siblingsDistinct_children hcs hg)

end Tree

namespace Record

variable {r : Record}

/-- Below a null or missing cell there are no cells. -/
theorem valueAt_of_isAncestorOf {p q : Path} (hpq : p.isAncestorOf q = true)
    (hp : ((r.valueAt p).getD .null).isNull = true) : r.valueAt q = none := by
  obtain ⟨name, rest, hq⟩ := (Path.isAncestorOf_iff _ _).mp hpq
  rw [valueAt, hq, cellAt_append, ← valueAt]
  cases hj : r.valueAt p with
  | none => rfl
  | some j =>
    rw [hj, Option.getD_some, isNull_iff] at hp
    rw [hp, Option.bind_some, cellAt_null (List.cons_ne_nil name rest)]

theorem keys_projectCells (r : Record) (cs : List Column) :
    (r.projectCells cs).map Prod.fst = cs.map displayName := by
  rw [projectCells_eq_map, List.map_map]
  rfl

theorem ofList_projectCells {cs : List Column} (hcs : (cs.map displayName).Nodup) :
    Entries.ofList (r.projectCells cs) = r.projectCells cs :=
  Entries.ofList_of_nodup (keys_projectCells r cs ▸ hcs)

theorem get?_projectCells {cs : List Column} (hcs : (cs.map displayName).Nodup) {c : Column}
    (hc : c ∈ cs) :
    (obj (Entries.ofList (r.projectCells cs))).get? c.displayName = some (r.projectCell c) := by
  rw [ofList_projectCells hcs]
  refine Entries.get?_of_mem (keys_projectCells r cs ▸ hcs) ?_
  rw [projectCells_eq_map]
  exact List.mem_map_of_mem hc

/-- In the projected row the display names of a leaf lead to the cell at its path. -/
theorem cellAt_projectCells {parent : Path} {cs : List Column} {names : List String} {c : Column}
    (hcs : SiblingsDistinct (cs.map (settle parent))) (hanch : ∀ d ∈ cs, d.Anchored)
    (h : ShownAt cs names c) (hc : c.isGroup = false) :
    (cellAt (.obj (Entries.ofList (r.projectCells cs))) names).getD .null =
      (r.valueAt c.path).getD .null := by
  induction h generalizing parent with
  | here hmem =>
    rw [cellAt_cons, get?_projectCells (nodup_displayName hcs) hmem]
    exact projectCell_of_not_isGroup r hc
  | @within cs g names c hg h ih =>
    rw [cellAt_cons, get?_projectCells (nodup_displayName hcs) hg, Option.bind_some,
      projectCell_of_isGroup r h.isGroup]
    split_ifs with hnull
    -- A group that is null is not written anew, but neither has the row any cell below it.
    · have habove := (hanch g hg).isAncestorOf_of_mem h.mem_preorderAll
      rw [cellAt_null h.ne_nil, valueAt_of_isAncestorOf habove hnull]
    · exact ih (siblingsDistinct_children hcs hg)
        (fun d hd => ((hanch g hg).children d hd).2) hc

end Record

namespace Table

/-- A projection that succeeds has the settled columns for its tree and the rows written anew. -/
theorem project_eq_ok {t out : Table} {cs : List Column} (h : t.project cs = .ok out) :
    out = ⟨⟨cs.map materialize⟩, t.records.map (·.project cs)⟩ ∧ out.tree.WellFormed := by
  rw [project] at h
  split at h
  · cases h
  · obtain ⟨tree, htree, h⟩ := bind_eq_ok.mp h
    cases h
    obtain ⟨hcolumns, -⟩ := Tree.build_eq_ok_iff.mp htree
    have hplaced : (cs.map materialize).map (rebase .root) = cs.map materialize := by
      rw [List.map_map]
      exact List.map_congr_left fun c _ => rebase_settle .root c
    refine ⟨?_, .of_build htree⟩
    rw [← hplaced, ← hcolumns]

/-- A projection onto columns in their places shows every leaf where its tree says: the display
names on the way to it are the path of a column of its kind and type, and in each row they lead to
the cell that was at its own path. -/
theorem project_shows_cells {t out : Table} {columns : List Column}
    (hcs : ∀ c ∈ columns, c.Anchored) (h : t.project columns = .ok out) :
    out.columnNames = columns.map displayName ∧
      List.Forall₂ (fun r r' : Record => r'.id = r.id ∧
        ∃ fields, r'.payload = .obj fields ∧ fields.map Prod.fst = columns.map displayName)
        t.records out.records ∧
      ∀ names c, ShownAt columns names c → c.isGroup = false →
        (∃ d, out.tree.find? ⟨names⟩ = some d ∧ d.path = ⟨names⟩ ∧ d.kind = c.kind ∧
          d.type? = c.type? ∧ d.schema? = c.schema?) ∧
        List.Forall₂ (fun r r' : Record =>
          (r'.valueAt ⟨names⟩).getD .null = (r.valueAt c.path).getD .null)
          t.records out.records := by
  obtain ⟨rfl, hwf⟩ := project_eq_ok h
  refine ⟨map_name_settle .root columns, ?_, fun names c hshown hc => ⟨?_, ?_⟩⟩
  · rw [List.forall₂_map_right_iff, List.forall₂_same]
    intro r _
    refine ⟨rfl, _, rfl, ?_⟩
    rw [Record.ofList_projectCells (nodup_displayName hwf.distinct), Record.keys_projectCells]
  · obtain ⟨place, hfind⟩ := Tree.lookup_settle hwf.distinct hshown
    exact ⟨_, hfind, (hwf.path_of_find? hfind).1, kind_settle _ _, type?_settle _ _,
      schema?_settle _ _⟩
  · rw [List.forall₂_map_right_iff, List.forall₂_same]
    intro r _
    exact Record.cellAt_projectCells hwf.distinct hcs hshown hc

/-- A pruned group comes under another name, around a renamed column; a column that was beside that
one comes out of the group under the name of a third. The tree has none of them, and the group is
null in one row and without columns in another. -/
theorem project_shows_cells_renamed :
    let x := Column.value ⟨"x", ⟨["g", "h", "x"]⟩, some "first"⟩ ⟨.int, false⟩
    let g := Column.group ⟨"g", ⟨["g"]⟩, some "k"⟩ [.group ⟨"h", ⟨["g", "h"]⟩, none⟩ [x]]
    let y := Column.value ⟨"y", ⟨["g", "h", "y"]⟩, some "a"⟩ ⟨.any, true⟩
    let a := Column.frame ⟨"a", ⟨["a"]⟩, some "b"⟩ [topValue "n" ⟨.int, false⟩]
    let t : Table := ⟨⟨[topValue "z" ⟨.bool, false⟩]⟩,
      [⟨some "1", .obj [("g", .obj [("h", .obj [("y", .bool true), ("x", .int 1)])]),
        ("a", .arr [.obj [("n", .int 2)]])]⟩,
        ⟨none, .obj [("g", .null)]⟩, ⟨some "3", .obj [("a", .int 4), ("g", .obj [("h", .int 5)])]⟩]⟩
    let out : Table := ⟨⟨[topGroup "k" [topGroup "h" [topValue "first" ⟨.int, false⟩]],
        topValue "a" ⟨.any, true⟩, topFrame "b" [topValue "n" ⟨.int, false⟩]]⟩,
      [⟨some "1", .obj [("k", .obj [("h", .obj [("first", .int 1)])]), ("a", .bool true),
        ("b", .arr [.obj [("n", .int 2)]])]⟩,
        ⟨none, .obj [("k", .null), ("a", .null), ("b", .null)]⟩,
        ⟨some "3", .obj [("k", .obj [("h", .obj [("first", .null)])]), ("a", .null),
          ("b", .int 4)]⟩]⟩
    (∀ c ∈ [g, y, a], c.Anchored) ∧ t.project [g, y, a] = .ok out ∧
      out.columnNames = [g, y, a].map displayName ∧ ShownAt [g, y, a] ["k", "h", "first"] x ∧
      (∃ d, out.tree.find? ⟨["k", "h", "first"]⟩ = some d ∧ d.path = ⟨["k", "h", "first"]⟩ ∧
        d.kind = x.kind ∧ d.type? = x.type? ∧ d.schema? = x.schema?) ∧
      List.Forall₂ (fun r r' : Record =>
        (r'.valueAt ⟨["k", "h", "first"]⟩).getD .null = (r.valueAt x.path).getD .null)
        t.records out.records := by
  intro x g y a t out
  have hcs : ∀ c ∈ [g, y, a], c.Anchored := by
    simp [g, y, a, x, Anchored, AnchoredAll, Path.child]
  have hout : t.project [g, y, a] = .ok out := rfl
  have hshown : ShownAt [g, y, a] ["k", "h", "first"] x :=
    .within (List.mem_cons_self (a := g)) (.within List.mem_cons_self (.here List.mem_cons_self))
  obtain ⟨hnames, -, hcells⟩ := project_shows_cells hcs hout
  exact ⟨hcs, hout, hnames, hshown, hcells _ _ hshown rfl⟩

end Table

end ColumnSelection
