import ColumnSelection.Proofs.Levels
import ColumnSelection.Proofs.SchemaFaults
import Mathlib.Data.List.Perm.Basic

/-!
# The order of the rows

Rows in another order show the same keys with the same values, only in another order. What a column
says about the values under its key does not depend on their order, so inference finds the same
columns again, at every level in the order in which the keys are first seen now.
-/
namespace ColumnSelection

open Column Json

namespace Column

/-- The second column is the first one with the siblings at every level below it in some order. -/
inductive Reorders : Column → Column → Prop
  | value (l t) : Reorders (.value l t) (.value l t)
  | group (l) {cs es ds} : List.Forall₂ Reorders cs es → es.Perm ds →
      Reorders (.group l cs) (.group l ds)
  | frame (l) {cs es ds} : List.Forall₂ Reorders cs es → es.Perm ds →
      Reorders (.frame l cs) (.frame l ds)

/-- The same columns in some order, with the siblings at every level below them in some order. -/
def ReordersAll (cs ds : List Column) : Prop :=
  ∃ es, List.Forall₂ Reorders cs es ∧ es.Perm ds

theorem Reorders.label_eq {c d : Column} (h : Reorders c d) : d.label = c.label := by
  cases h <;> rfl

theorem Reorders.name_eq {c d : Column} (h : Reorders c d) : d.name = c.name :=
  congrArg Label.name h.label_eq

theorem reorders_group {l : Label} {cs ds : List Column} (h : ReordersAll cs ds) :
    Reorders (.group l cs) (.group l ds) := by
  obtain ⟨es, hes, hperm⟩ := h
  exact .group l hes hperm

theorem reorders_frame {l : Label} {cs ds : List Column} (h : ReordersAll cs ds) :
    Reorders (.frame l cs) (.frame l ds) := by
  obtain ⟨es, hes, hperm⟩ := h
  exact .frame l hes hperm

/-- Every column of the second list is a column of the first with its siblings reordered. -/
theorem ReordersAll.mem {cs ds : List Column} (h : ReordersAll cs ds) {d : Column} (hd : d ∈ ds) :
    ∃ c ∈ cs, c.Reorders d := by
  obtain ⟨es, hes, hperm⟩ := h
  exact exists_mem_of_forall₂ hes (hperm.mem_iff.mpr hd)

/-- Reordering siblings moves no column away from its place. -/
theorem Bare.reorder {parent : Path} {c d : Column} (h : c.Reorders d) (hc : c.Bare parent) :
    d.Bare parent := by
  induction c using Column.induct generalizing parent d with
  | value l t =>
    cases h
    exact hc
  | group l cs ih =>
    obtain ⟨hl, hcs⟩ := bare_group.mp hc
    cases h with
    | @group _ _ es ds hes hperm =>
      refine bare_group.mpr ⟨hl, fun d hd => ?_⟩
      obtain ⟨c, hmem, hcd⟩ := ReordersAll.mem ⟨es, hes, hperm⟩ hd
      exact ih c hmem hcd (hcs c hmem)
  | frame l s ih =>
    obtain ⟨hl, hs⟩ := bare_frame.mp hc
    cases h with
    | @frame _ _ es ds hes hperm =>
      refine bare_frame.mpr ⟨hl, fun d hd => ?_⟩
      obtain ⟨c, hmem, hcd⟩ := ReordersAll.mem ⟨es, hes, hperm⟩ hd
      exact ih c hmem hcd (hs c hmem)

end Column

/-- The join of a list of types does not depend on their order. -/
theorem BaseType.join_perm {bs bs' : List BaseType} (h : bs.Perm bs') : join bs = join bs' := by
  by_cases hnil : bs = []
  · subst hnil
    rw [h.nil_eq]
  · have hnil' : bs' ≠ [] := by
      rintro rfl
      exact hnil h.eq_nil
    have hbounds : ∀ c : BaseType, (join bs).isSubtypeOf c ↔ (join bs').isSubtypeOf c := by
      intro c
      rw [join_isSubtypeOf_iff hnil, join_isSubtypeOf_iff hnil']
      exact forall_congr' fun b => imp_congr_left h.mem_iff
    have hle := (hbounds (join bs')).mpr (isSubtypeOf_refl _)
    have hge := (hbounds (join bs)).mp (isSubtypeOf_refl _)
    exact isSubtypeOf_antisymm hle hge

section perm

variable {objects objects' : List (List (String × Json))}

/-- The type of a value column does not depend on the order of its cells. -/
theorem cellType_perm {cells cells' : List Json} (h : cells.Perm cells') (missing : Bool) :
    cellType missing cells = cellType missing cells' := by
  have hbases := h.filterMap base?
  rw [cellType, cellType, BaseType.join_perm hbases, h.any_eq, hbases.isEmpty_eq]

theorem cellsUnder_perm (h : objects.Perm objects') (key : String) :
    (cellsUnder key objects).Perm (cellsUnder key objects') :=
  h.filterMap _

theorem lacksKey_perm (h : objects.Perm objects') (key : String) :
    lacksKey key objects = lacksKey key objects' :=
  h.any_eq

/-- The same objects have the same keys, though they may appear in another order. -/
theorem levelKeys_perm (h : objects.Perm objects') :
    (levelKeys objects).Perm (levelKeys objects') := by
  rw [List.perm_ext_iff_of_nodup (nodup_levelKeys objects) (nodup_levelKeys objects')]
  intro key
  rw [mem_levelKeys, mem_levelKeys]
  exact exists_congr fun o => and_congr_left fun _ => h.mem_iff

end perm

namespace Column

/-- The values described by the column, in another order, are described by the column with its
siblings reordered at every level. -/
def StableUnderPerm (c : Column) : Prop :=
  ∀ (missing : Bool) (cells cells' : List Json), cells.Perm cells' → c.Describes missing cells →
    ∃ d, c.Reorders d ∧ d.Describes missing cells'

theorem DescribesLevel.perm_of {cs : List Column} (ih : ∀ c ∈ cs, c.StableUnderPerm)
    {objects objects' : List (List (String × Json))} (hperm : objects.Perm objects')
    (h : DescribesLevel objects cs) :
    ∃ ds, ReordersAll cs ds ∧ DescribesLevel objects' ds := by
  have hcolumn : ∀ c ∈ cs, ∃ d, c.Reorders d ∧
      d.Describes (lacksKey d.name objects') (cellsUnder d.name objects') := by
    intro c hc
    obtain ⟨d, hcd, hd⟩ := ih c hc _ _ _ (cellsUnder_perm hperm c.name) (h.each c hc)
    rw [lacksKey_perm hperm, ← hcd.name_eq] at hd
    exact ⟨d, hcd, hd⟩
  choose! f hreorders hdescribes using hcolumn
  have hes : List.Forall₂ Reorders cs (cs.map f) :=
    List.forall₂_map_right_iff.mpr (List.forall₂_same.mpr hreorders)
  have hnames : (cs.map f).map name = levelKeys objects := by
    rw [← h.names, List.map_map]
    exact List.map_congr_left fun c hc => (hreorders c hc).name_eq
  -- The columns found so far take the order in which their keys are first seen now.
  have hkeys : (levelKeys objects').Perm ((cs.map f).map name) := by
    rw [hnames]
    exact (levelKeys_perm hperm).symm
  have hnamed : List.Forall₂ (fun key d => Column.name d = key) ((cs.map f).map name) (cs.map f) :=
    List.forall₂_map_left_iff.mpr (List.forall₂_same.mpr fun _ _ => rfl)
  obtain ⟨ds, hds, hdsperm⟩ := List.perm_comp_forall₂ hkeys hnamed
  refine ⟨ds, ⟨cs.map f, hes, hdsperm.symm⟩, ?_, fun d hd => ?_⟩
  · have hmap : List.Forall₂ Eq (ds.map name) (levelKeys objects') := by
      rw [List.forall₂_map_left_iff]
      exact hds.flip
    exact List.forall₂_eq_eq_eq ▸ hmap
  · obtain ⟨c, hc, rfl⟩ := List.mem_map.mp (hdsperm.mem_iff.mp hd)
    exact hdescribes c hc

theorem stableUnderPerm (c : Column) : c.StableUnderPerm := by
  induction c using Column.induct with
  | value l t =>
    intro missing cells cells' hperm h
    obtain ⟨hplain, rfl⟩ := h
    refine ⟨_, .value l _, fun j hj => hplain j (hperm.mem_iff.mpr hj), ?_⟩
    exact cellType_perm hperm missing
  | group l cs ih =>
    intro missing cells cells' hperm h
    obtain ⟨hcells, hne, hlevel⟩ := describes_group.mp h
    have hrows := hperm.filterMap fields?
    obtain ⟨ds, hreorders, hds⟩ := hlevel.perm_of ih hrows
    refine ⟨.group l ds, reorders_group hreorders, describes_group.mpr ⟨?_, ?_, hds⟩⟩
    · exact fun j hj => hcells j (hperm.mem_iff.mpr hj)
    · intro hnil
      rw [hnil] at hrows
      exact hne hrows.eq_nil
  | frame l s ih =>
    intro missing cells cells' hperm h
    obtain ⟨hcells, hany, hlevel⟩ := describes_frame.mp h
    obtain ⟨ds, hreorders, hds⟩ := hlevel.perm_of ih (hperm.flatMap_right tableRows)
    refine ⟨.frame l ds, reorders_frame hreorders, describes_frame.mpr ⟨?_, ?_, hds⟩⟩
    · exact fun j hj => hcells j (hperm.mem_iff.mpr hj)
    · rw [← hperm.any_eq]
      exact hany

theorem DescribesLevel.perm {cs : List Column} {objects objects' : List (List (String × Json))}
    (hperm : objects.Perm objects') (h : DescribesLevel objects cs) :
    ∃ ds, ReordersAll cs ds ∧ DescribesLevel objects' ds :=
  h.perm_of (fun c _ => stableUnderPerm c) hperm

end Column

/-- Inference on rows in another order finds the same columns in some order. -/
theorem Tree.infer_perm {rows rows' : List Record} (hrows : ∀ r ∈ rows, r.payload.Merged)
    (hperm : rows.Perm rows') {t : Tree} (h : infer rows = .ok t) :
    ∃ t', infer rows' = .ok t' ∧ ReordersAll t.columns t'.columns := by
  have hrows' : ∀ r ∈ rows', r.payload.Merged := fun r hr => hrows r (hperm.mem_iff.mpr hr)
  obtain ⟨hobj, hbare, hlevel⟩ := (infer_eq_ok_iff hrows).mp h
  have hobjects : (rowObjects rows).Perm (rowObjects rows') := hperm.filterMap _
  obtain ⟨ds, hreorders, hds⟩ := hlevel.perm hobjects
  refine ⟨⟨ds⟩, (infer_eq_ok_iff hrows').mpr ⟨fun r hr => ?_, fun d hd => ?_, hds⟩,
    hreorders⟩
  · exact hobj r (hperm.mem_iff.mpr hr)
  · obtain ⟨c, hc, hcd⟩ := hreorders.mem hd
    exact (hbare c hc).reorder hcd

namespace Table

theorem exists_ofRecords_of_perm {batch batch' : List Record}
    (hmerged : ∀ r ∈ batch, r.payload.Merged) (hperm : batch.Perm batch') {t : Table}
    (h : ofRecords batch = .ok t) :
    ∃ t', ofRecords batch' = .ok t' ∧ ReordersAll t.tree.columns t'.tree.columns := by
  obtain ⟨hinfer, -⟩ := ofRecords_eq_ok_iff.mp h
  obtain ⟨tree, htree, hreorders⟩ := Tree.infer_perm hmerged hperm hinfer
  exact ⟨⟨tree, batch'⟩, ofRecords_eq_ok_iff.mpr ⟨htree, rfl⟩, hreorders⟩

/-- The table of rows in another order has the same columns up to the order of siblings; where
there is no table, both attempts end with a fault of the schema. -/
theorem ofRecords_perm {batch batch' : List Record} (hmerged : ∀ r ∈ batch, r.payload.Merged)
    (hperm : batch.Perm batch') :
    (∃ t t', ofRecords batch = .ok t ∧ ofRecords batch' = .ok t' ∧
        ReordersAll t.tree.columns t'.tree.columns) ∨
      ∃ fault fault', ofRecords batch = .error (.schema fault) ∧
        ofRecords batch' = .error (.schema fault') := by
  by_cases hok : ∃ t, ofRecords batch = .ok t
  · obtain ⟨t, ht⟩ := hok
    obtain ⟨t', ht', hreorders⟩ := exists_ofRecords_of_perm hmerged hperm ht
    exact .inl ⟨t, t', ht, ht', hreorders⟩
  · have hmerged' : ∀ r ∈ batch', r.payload.Merged :=
      fun r hr => hmerged r (hperm.mem_iff.mpr hr)
    -- A table of the rows in the new order would give one of the rows in the old.
    have hok' : ∀ t', ofRecords batch' ≠ .ok t' := by
      intro t' ht'
      obtain ⟨t, ht, -⟩ := exists_ofRecords_of_perm hmerged' hperm.symm ht'
      exact hok ⟨t, ht⟩
    obtain ⟨fault, hfault⟩ := (schemaFaultOnly_ofRecords batch).exists_fault (not_exists.mp hok)
    obtain ⟨fault', hfault'⟩ := (schemaFaultOnly_ofRecords batch').exists_fault hok'
    exact .inr ⟨fault, fault', hfault, hfault'⟩

/-- Two rows that show their keys in opposite orders, the one with a list where the other has a
nested table. -/
theorem ofRecords_perm_swapped :
    let r₁ : Record := ⟨some "1", .obj [("a", .int 1), ("f", .arr [.int 2]),
      ("g", .obj [("x", .null), ("y", .bool true)])]⟩
    let r₂ : Record := ⟨some "2", .obj [("g", .obj [("y", .str "s"), ("x", .int 3)]),
      ("f", .arr [.obj [("b", .int 4)], .null])]⟩
    (∀ r ∈ [r₁, r₂], r.payload.Merged) ∧ [r₁, r₂].Perm [r₂, r₁] ∧
      ∃ t t', ofRecords [r₁, r₂] = .ok t ∧ ofRecords [r₂, r₁] = .ok t' ∧
        ReordersAll t.tree.columns t'.tree.columns ∧ t.columnNames = ["a", "f", "g"] ∧
        t'.columnNames = ["g", "f", "a"] := by
  intro r₁ r₂
  have hmerged : ∀ r ∈ [r₁, r₂], r.payload.Merged := by
    simp [r₁, r₂, Json.Merged, Json.MergedFields, Json.MergedItems]
  have hperm : [r₁, r₂].Perm [r₂, r₁] := .swap _ _ _
  have hnames : (ofRecords [r₁, r₂]).map columnNames = .ok ["a", "f", "g"] := rfl
  have hnames' : (ofRecords [r₂, r₁]).map columnNames = .ok ["g", "f", "a"] := rfl
  refine ⟨hmerged, hperm, ?_⟩
  rcases ofRecords_perm hmerged hperm with ⟨t, t', ht, ht', hreorders⟩ | ⟨fault, -, hfault, -⟩
  · rw [ht] at hnames
    rw [ht'] at hnames'
    exact ⟨t, t', ht, ht', hreorders, Except.ok.inj hnames, Except.ok.inj hnames'⟩
  · rw [hfault] at hnames
    cases hnames

end Table

end ColumnSelection
