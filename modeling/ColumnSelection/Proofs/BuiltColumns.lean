import ColumnSelection.Proofs.ProjectedCells
import ColumnSelection.Proofs.TreeIdentity

/-!
# Columns as they are built

However a column is built, its path ends with its name, and at every depth the columns below it
stand in their places: those of a group beneath the group, those of a frame beneath the root of its
nested tables. Moving a column forgets where it stood before and changes nothing but paths.
Materializing uses up the display names, so that a second time nothing is left to do.
-/
namespace ColumnSelection

theorem Path.name?_child (p : Path) (name : String) : (p.child name).name? = some name :=
  List.getLast?_concat

namespace Column

/-- The columns made by the operations on columns, in any order and nesting. -/
inductive Built : Column → Prop
  | value (name : String) (type : DataType) : Built (topValue name type)
  | group (name : String) {cs : List Column} : (∀ c ∈ cs, Built c) → Built (topGroup name cs)
  | frame (name : String) {cs : List Column} : (∀ c ∈ cs, Built c) → Built (topFrame name cs)
  | named (shown : String) {c : Column} : Built c → Built (c.named shown)
  | rebase (parent : Path) {c : Column} : Built c → Built (c.rebase parent)
  | materialize {c : Column} : Built c → Built c.materialize

mutual

/-- Every child of a group, at every depth and also in frames, has the path of the group with its
own name added, and every column of a schema its name alone. -/
def WellRooted : Column → Prop
  | .value .. => True
  | .group l cs => WellRootedAll l.path cs
  | .frame _ s => WellRootedAll .root s
termination_by structural c => c

/-- The columns of a list have the path of a parent with their own names added, and so on
below them. -/
def WellRootedAll (parent : Path) : List Column → Prop
  | [] => True
  | c :: rest => c.path = parent.child c.name ∧ WellRooted c ∧ WellRootedAll parent rest
termination_by structural cs => cs

end

section rooted

variable {parent : Path} {l : Label} {cs : List Column} {c : Column}

theorem wellRootedAll_iff :
    WellRootedAll parent cs ↔ ∀ c ∈ cs, c.path = parent.child c.name ∧ c.WellRooted := by
  induction cs with
  | nil => simp [WellRootedAll]
  | cons c rest ih => simp [WellRootedAll, ih, and_assoc]

theorem wellRooted_group : (Column.group l cs).WellRooted ↔
    ∀ c ∈ cs, c.path = l.path.child c.name ∧ c.WellRooted := by
  rw [WellRooted, wellRootedAll_iff]

theorem wellRooted_frame : (Column.frame l cs).WellRooted ↔
    ∀ c ∈ cs, c.path = Path.root.child c.name ∧ c.WellRooted := by
  rw [WellRooted, wellRootedAll_iff]

/-- A move takes the children of a group along and leaves the schema of a frame where it is. -/
theorem WellRooted.rebase (h : c.WellRooted) (parent : Path) : (c.rebase parent).WellRooted := by
  induction c using Column.induct generalizing parent with
  | value l t => trivial
  | frame l s => exact h
  | group l cs ih =>
    rw [Column.rebase, rebaseAll_eq_map, wellRooted_group, List.forall_mem_map]
    intro c hc
    rw [path_rebase, name_rebase]
    exact ⟨rfl, ih c hc (wellRooted_group.mp h c hc).2 _⟩

@[inherit_doc WellRooted.rebase]
theorem WellRooted.settle (h : c.WellRooted) (parent : Path) : (c.settle parent).WellRooted := by
  induction c using Column.induct generalizing parent with
  | value l t => trivial
  | frame l s => exact h
  | group l cs ih =>
    rw [Column.settle, settleAll_eq_map, wellRooted_group, List.forall_mem_map]
    intro c hc
    rw [path_settle, name_settle]
    exact ⟨rfl, ih c hc (wellRooted_group.mp h c hc).2 _⟩

theorem WellRooted.named (h : c.WellRooted) (shown : String) : (c.named shown).WellRooted := by
  cases c with
  | value l t => trivial
  | group l cs => exact h
  | frame l s => exact h

theorem wellRooted_map_rebase (h : ∀ c ∈ cs, c.WellRooted) (parent : Path) :
    ∀ c ∈ cs.map (Column.rebase parent), c.path = parent.child c.name ∧ c.WellRooted := by
  rw [List.forall_mem_map]
  intro c hc
  rw [path_rebase, name_rebase]
  exact ⟨rfl, (h c hc).rebase parent⟩

end rooted

theorem name?_path_named {c : Column} (h : c.path.name? = some c.name) (shown : String) :
    (c.named shown).path.name? = some (c.named shown).name := by
  cases c <;> exact h

theorem Built.name?_path {c : Column} (h : Built c) : c.path.name? = some c.name := by
  induction h with
  | value name type => rfl
  | group name _ _ => rfl
  | frame name _ _ => rfl
  | named shown _ ih => exact name?_path_named ih shown
  | rebase parent _ _ => rw [path_rebase, name_rebase, Path.name?_child]
  | materialize _ _ => rw [Column.materialize, path_settle, name_settle, Path.name?_child]

theorem Built.wellRooted {c : Column} (h : Built c) : c.WellRooted := by
  induction h with
  | value name type => trivial
  | group name _ ih => exact wellRooted_group.mpr (wellRooted_map_rebase ih _)
  | frame name _ ih => exact wellRooted_frame.mpr (wellRooted_map_rebase ih _)
  | named shown _ ih => exact ih.named shown
  | rebase parent _ ih => exact ih.rebase parent
  | materialize _ ih => exact ih.settle .root

section settle

variable (parent other : Path) (c : Column)

theorem settle_settle : (c.settle other).settle parent = c.settle parent := by
  induction c using Column.induct generalizing parent other with
  | value l t => rfl
  | frame l s => rfl
  | group l cs ih =>
    -- What is shown by a settled label is its name, so the children move to the same place.
    have hlabel : (l.settled other).settled parent = l.settled parent := rfl
    have hshown : (l.settled other).displayName = l.displayName := rfl
    simp only [settle, settleAll_eq_map, List.map_map, hlabel, hshown, Column.group.injEq, true_and]
    exact List.map_congr_left fun c hc => ih c hc _ _

theorem shownAs_of_mem_preorder_settle {d : Column} (hd : d ∈ (c.settle parent).preorder) :
    d.shownAs = none := by
  induction c using Column.induct generalizing parent with
  | value l t =>
    obtain rfl := List.mem_singleton.mp hd
    rfl
  | frame l s =>
    obtain rfl := List.mem_singleton.mp hd
    rfl
  | group l cs ih =>
    rw [settle, settleAll_eq_map, mem_preorder_group] at hd
    rcases hd with rfl | ⟨b, hb, hd⟩
    · rfl
    · obtain ⟨c, hc, rfl⟩ := List.mem_map.mp hb
      exact ih c hc _ hd

end settle

/-- A built column and all columns below it are in their places. Of several moves only the last
counts, and none changes more than paths. Materializing again changes nothing, and no display name
is left on the column or below it through groups. -/
theorem built_stays_rooted {c : Column} (h : Built c) :
    (c.path.name? = some c.name ∧ c.WellRooted) ∧
      (∀ a b, (c.rebase a).rebase b = c.rebase b) ∧
      (∀ a, (c.rebase a).unplaced = c.unplaced) ∧
      c.materialize.materialize = c.materialize ∧
      ∀ d ∈ c.materialize.preorder, d.shownAs = none := by
  refine ⟨⟨h.name?_path, h.wellRooted⟩, fun a b => rebase_rebase b a c,
    fun a => unplaced_rebase a c, settle_settle .root .root c, fun d hd => ?_⟩
  exact shownAs_of_mem_preorder_settle .root c hd

/-- A group that was moved and given a display name, with a frame of groups in it, stands in another
group beside its materialized form. -/
theorem built_stays_rooted_nested :
    let x := (topValue "x" ⟨.int, true⟩).named "shown"
    let f := topFrame "f" [(topGroup "h" [x]).rebase ⟨["far", "away"]⟩]
    let g := ((topGroup "g" [x, f]).named "k").rebase ⟨["a", "b"]⟩
    let c := topGroup "top" [g, g.materialize]
    Built c ∧ c.preorder.map path = [⟨["top"]⟩, ⟨["top", "g"]⟩, ⟨["top", "g", "x"]⟩,
        ⟨["top", "g", "f"]⟩, ⟨["top", "k"]⟩, ⟨["top", "k", "shown"]⟩, ⟨["top", "k", "f"]⟩] ∧
      (c.path.name? = some c.name ∧ c.WellRooted) ∧
      (∀ a b, (c.rebase a).rebase b = c.rebase b) ∧
      (∀ a, (c.rebase a).unplaced = c.unplaced) ∧
      c.materialize.materialize = c.materialize ∧
      ∀ d ∈ c.materialize.preorder, d.shownAs = none := by
  intro x f g c
  have hx : Built x := (Built.value "x" _).named "shown"
  have hf : Built f := by
    refine .frame "f" (List.forall_mem_singleton.mpr (.rebase _ ?_))
    exact .group "h" (List.forall_mem_singleton.mpr hx)
  have hg : Built g := by
    refine .rebase _ (.named "k" (.group "g" ?_))
    simp [hx, hf]
  have hc : Built c := by
    refine .group "top" ?_
    simp [hg, hg.materialize]
  exact ⟨hc, rfl, built_stays_rooted hc⟩

end Column

end ColumnSelection
