import ColumnSelection.Proofs.Projection
import Mathlib.Data.List.ReduceOption

/-!
# Inference on projected rows

The cells of a column in projected rows are its former cells, narrowed, with null for each missing
one. They are described by the pruning of the column that the rows were projected onto: missing
cells had made the column accept nulls before.
-/
namespace ColumnSelection

open Column Json

section fill

/-- Cells with null for each missing one. -/
def fill (slots : List (Option Json)) : List Json :=
  slots.map fun slot => slot.getD .null

@[simp] theorem fill_nil : fill [] = [] := rfl

@[simp] theorem fill_cons_none (rest : List (Option Json)) :
    fill (none :: rest) = .null :: fill rest := rfl

@[simp] theorem fill_cons_some (j : Json) (rest : List (Option Json)) :
    fill (some j :: rest) = j :: fill rest := rfl

variable {slots : List (Option Json)}

theorem forall_mem_fill {p : Json → Prop} (hnull : p .null) (h : ∀ j ∈ slots.reduceOption, p j) :
    ∀ j ∈ fill slots, p j := by
  intro j hj
  obtain ⟨slot, hslot, rfl⟩ := List.mem_map.mp hj
  cases slot with
  | none => exact hnull
  | some j => exact h j (List.reduceOption_mem_iff.mpr hslot)

theorem filterMap_fill {α : Type*} {f : Json → Option α} (hnull : f .null = none) :
    (fill slots).filterMap f = slots.reduceOption.filterMap f := by
  induction slots with
  | nil => rfl
  | cons slot rest ih =>
    cases slot with
    | none => rw [fill_cons_none, List.filterMap_cons_none hnull, ih,
        List.reduceOption_cons_of_none]
    | some j => rw [fill_cons_some, List.reduceOption_cons_of_some, List.filterMap_cons, ih,
        List.filterMap_cons]

theorem flatMap_fill {α : Type*} {f : Json → List α} (hnull : f .null = []) :
    (fill slots).flatMap f = slots.reduceOption.flatMap f := by
  induction slots with
  | nil => rfl
  | cons slot rest ih =>
    cases slot with
    | none => rw [fill_cons_none, List.flatMap_cons, hnull, ih, List.reduceOption_cons_of_none]; rfl
    | some j => rw [fill_cons_some, List.reduceOption_cons_of_some, List.flatMap_cons, ih,
        List.flatMap_cons]

theorem any_fill (p : Json → Bool) :
    (fill slots).any p = (slots.any Option.isNone && p .null || slots.reduceOption.any p) := by
  induction slots with
  | nil => rfl
  | cons slot rest ih =>
    cases slot with
    | none =>
      rw [fill_cons_none, List.any_cons, ih, List.reduceOption_cons_of_none]
      cases p .null <;> simp
    | some j =>
      rw [fill_cons_some, List.any_cons, ih, List.reduceOption_cons_of_some]
      simp [Bool.or_left_comm]

end fill

theorem cellsUnder_eq (key : String) (objects : List (List (String × Json))) :
    cellsUnder key objects = (objects.map (Entries.get? key)).reduceOption := by
  rw [cellsUnder, List.reduceOption, List.filterMap_map]
  rfl

theorem lacksKey_eq_any (key : String) (objects : List (List (String × Json))) :
    lacksKey key objects = (objects.map (Entries.get? key)).any Option.isNone := by
  rw [lacksKey, List.any_map]
  rfl

namespace Column

/-- Null in place of a missing cell leaves the type as it is. -/
theorem cellType_fill (slots : List (Option Json)) :
    cellType false (fill slots) = cellType (slots.any Option.isNone) slots.reduceOption := by
  rw [cellType, cellType, filterMap_fill rfl, any_fill]
  simp

theorem Describes.fill {c : Column} (hc : c.isGroup = false) {slots : List (Option Json)}
    (h : c.Describes (slots.any Option.isNone) slots.reduceOption) :
    c.Describes false (fill slots) := by
  cases c with
  | value l t => exact ⟨forall_mem_fill rfl h.1, by rw [h.2, cellType_fill]⟩
  | frame l s =>
    rw [describes_frame] at h ⊢
    rw [any_fill, flatMap_fill rfl]
    exact ⟨forall_mem_fill rfl h.1, by simp [h.2.1], h.2.2⟩
  | group l cs => cases hc

/-- Narrowed objects have the columns that they were narrowed to as keys. -/
theorem levelKeys_narrowAll {ds : List Column} (hds : (ds.map name).Nodup)
    {objects : List (List (String × Json))} (hne : objects = [] → ds = []) :
    levelKeys (objects.map fun o => narrowAll ds (obj o)) = ds.map name := by
  cases objects with
  | nil => rw [hne rfl]; rfl
  | cons o rest =>
    rw [levelKeys, List.map_cons, List.flatMap_cons, keys_narrowAll, eraseDups_append_of_subset,
      eraseDups_of_nodup hds]
    intro key hkey
    obtain ⟨fields, hfields, hkey⟩ := List.mem_flatMap.mp hkey
    obtain ⟨o, -, rfl⟩ := List.mem_map.mp hfields
    rwa [keys_narrowAll] at hkey

/-- Narrowed cells are described by the column that they were narrowed to. -/
def NarrowsTo (c : Column) : Prop :=
  ∀ (d : Column) (slots : List (Option Json)), d.Prunes c →
    c.Describes (slots.any Option.isNone) slots.reduceOption →
      d.Describes false ((fill slots).map d.narrow)

theorem cellsUnder_narrowAll {ds : List Column} (hds : (ds.map name).Nodup) {d : Column}
    (hd : d ∈ ds) (objects : List (List (String × Json))) :
    cellsUnder d.name (objects.map fun o => narrowAll ds (obj o)) =
      (fill (objects.map (Entries.get? d.name))).map d.narrow := by
  rw [cellsUnder, List.filterMap_map, fill, List.map_map, List.map_map, ← List.filterMap_eq_map]
  refine List.filterMap_congr fun o _ => ?_
  rw [Function.comp_apply, get?_narrowAll hds hd]
  rfl

theorem lacksKey_narrowAll {ds : List Column} (hds : (ds.map name).Nodup) {d : Column}
    (hd : d ∈ ds) (objects : List (List (String × Json))) :
    lacksKey d.name (objects.map fun o => narrowAll ds (obj o)) = false := by
  rw [lacksKey, List.any_map, List.any_eq_false]
  intro o _
  rw [Function.comp_apply, get?_narrowAll hds hd]
  simp

theorem DescribesLevel.narrow_of {ds cs : List Column} (h : PrunesAll ds cs)
    (ih : ∀ c ∈ cs, c.NarrowsTo) {objects : List (List (String × Json))}
    (hcs : DescribesLevel objects cs) :
    DescribesLevel (objects.map fun o => narrowAll ds (obj o)) ds := by
  have hds : (ds.map name).Nodup := h.names.nodup (hcs.names ▸ nodup_levelKeys objects)
  refine ⟨(levelKeys_narrowAll hds fun hnil => ?_).symm, fun d hd => ?_⟩
  · have hnames := h.names
    rw [hcs.names, hnil] at hnames
    exact List.map_eq_nil_iff.mp (List.sublist_nil.mp hnames)
  · obtain ⟨c, hc, hdc⟩ := h.mem hd
    have hdesc := hcs.each c hc
    rw [lacksKey_eq_any, cellsUnder_eq, ← hdc.name_eq] at hdesc
    rw [lacksKey_narrowAll hds hd, cellsUnder_narrowAll hds hd]
    exact ih c hc d _ hdc hdesc

theorem narrowsTo (c : Column) : c.NarrowsTo := by
  induction c using Column.induct with
  | value l t =>
    intro d slots h hc
    cases h
    simpa [funext (narrow_of_not_isGroup (c := .value l t) rfl)] using hc.fill rfl
  | frame l s =>
    intro d slots h hc
    cases h
    simpa [funext (narrow_of_not_isGroup (c := .frame l s) rfl)] using hc.fill rfl
  | group l cs ih =>
    intro d slots h hc
    cases h with
    | @group _ ds _ h =>
      obtain ⟨hcells, hne, hlevel⟩ := describes_group.mp hc
      -- Nulls, those for missing cells included, stay outside of the level below.
      have hrows : ((fill slots).map (Column.group l ds).narrow).filterMap fields? =
          (slots.reduceOption.filterMap fields?).map fun o => narrowAll ds (obj o) := by
        rw [List.filterMap_map, filterMap_fill (by simp), List.map_filterMap]
        refine List.filterMap_congr fun j hj => ?_
        rw [Function.comp_apply, narrow_group]
        rcases hcells j hj with hnull | hobj
        · cases j <;> first | rfl | cases hnull
        · cases j <;> first | rfl | cases hobj
      rw [describes_group, hrows]
      refine ⟨fun j hj => ?_, by simpa using hne, hlevel.narrow_of h ih⟩
      obtain ⟨i, -, rfl⟩ := List.mem_map.mp hj
      rw [narrow_group]
      split_ifs <;> simp

/-- Narrowed objects are described by the columns that they were narrowed to. -/
theorem DescribesLevel.narrow {ds cs : List Column} (h : PrunesAll ds cs)
    {objects : List (List (String × Json))} (hcs : DescribesLevel objects cs) :
    DescribesLevel (objects.map fun o => narrowAll ds (obj o)) ds :=
  hcs.narrow_of h fun c _ => narrowsTo c

end Column

/-- Inference on rows projected onto prunings of their columns finds these prunings. -/
theorem Tree.infer_project {rows : List Record} {t : Tree}
    (hrows : ∀ r ∈ rows, r.payload.Merged) (ht : Tree.infer rows = .ok t) {ds : List Column}
    (h : PrunesAll ds t.columns) :
    Tree.infer (rows.map fun r => r.project ds) = .ok ⟨ds⟩ := by
  obtain ⟨hobj, hbare, hlevel⟩ := (Tree.infer_eq_ok_iff hrows).mp ht
  have hdistinct : SiblingsDistinct ds := hlevel.siblingsDistinct.prune h
  have hds : ∀ d ∈ ds, d.Bare .root := Bare.prune_of_mem h hbare
  have hproject : ∀ r : Record, (r.project ds).payload = obj (narrowAll ds r.payload) := by
    intro r
    rw [r.project_eq_narrowAll hds hdistinct]
  have hobjects : rowObjects (rows.map fun r => r.project ds) =
      (rowObjects rows).map fun o => narrowAll ds (obj o) := by
    rw [rowObjects, rowObjects, List.filterMap_map, List.map_filterMap]
    refine List.filterMap_congr fun r hr => ?_
    obtain ⟨o, ho⟩ := isObject_iff.mp (hobj r hr)
    rw [Function.comp_apply, hproject, ho]
    rfl
  refine (Tree.infer_eq_ok_iff ?_).mpr ⟨?_, hds, hobjects ▸ hlevel.narrow h⟩
  · intro r' hr'
    obtain ⟨r, hr, rfl⟩ := List.mem_map.mp hr'
    obtain ⟨o, ho⟩ := isObject_iff.mp (hobj r hr)
    rw [hproject, ho]
    exact merged_narrowAll hdistinct (ho ▸ hrows r hr)
  · intro r' hr'
    obtain ⟨r, -, rfl⟩ := List.mem_map.mp hr'
    rw [hproject, isObject_obj]

end ColumnSelection
