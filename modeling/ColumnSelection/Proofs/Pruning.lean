import ColumnSelection.Proofs.Holding
import ColumnSelection.Proofs.Outcome
import ColumnSelection.Selection.ColumnLists

/-!
# Prunings

A pruning of a column has its label and kind. A leaf stays as it is; a group holds prunings of
some of its children, in their order. Exclusion always leaves prunings.
-/
namespace ColumnSelection.Column

/-- A column made from another by leaving out columns below it. -/
inductive Prunes : Column → Column → Prop
  | value (l t) : Prunes (.value l t) (.value l t)
  | frame (l s) : Prunes (.frame l s) (.frame l s)
  | group (l) {ds cs} : List.SublistForall₂ Prunes ds cs → Prunes (.group l ds) (.group l cs)

/-- Prunings of some columns of a list, in their order. -/
abbrev PrunesAll (ds cs : List Column) : Prop :=
  List.SublistForall₂ Prunes ds cs

theorem Prunes.label_eq {d c : Column} (h : Prunes d c) : d.label = c.label := by
  cases h <;> rfl

theorem Prunes.kind_eq {d c : Column} (h : Prunes d c) : d.kind = c.kind := by
  cases h <;> rfl

theorem Prunes.isGroup_eq {d c : Column} (h : Prunes d c) : d.isGroup = c.isGroup := by
  rw [isGroup, isGroup, h.kind_eq]

theorem Prunes.name_eq {d c : Column} (h : Prunes d c) : d.name = c.name :=
  congrArg Label.name h.label_eq

theorem Prunes.path_eq {d c : Column} (h : Prunes d c) : d.path = c.path :=
  congrArg Label.path h.label_eq

theorem Prunes.children {d c : Column} (h : Prunes d c) : PrunesAll d.children c.children := by
  cases h with
  | value l t => exact .nil
  | frame l s => exact .nil
  | group l h => exact h

/-- Only a group loses anything. -/
theorem Prunes.eq_of_not_isGroup {d c : Column} (h : Prunes d c) (hc : c.isGroup = false) :
    d = c := by
  cases h with
  | value l t => rfl
  | frame l s => rfl
  | group l h => cases hc

theorem PrunesAll.mem {ds cs : List Column} (h : PrunesAll ds cs) {d : Column} (hd : d ∈ ds) :
    ∃ c ∈ cs, d.Prunes c := by
  obtain ⟨kept, hf, hs⟩ := List.sublistForall₂_iff.mp h
  obtain ⟨c, hc, hdc⟩ := exists_mem_of_forall₂ hf.flip hd
  exact ⟨c, hs.subset hc, hdc⟩

theorem PrunesAll.map_sublist {ds cs : List Column} (h : PrunesAll ds cs) {α : Type*}
    {f : Column → α} (hf : ∀ d c, Prunes d c → f d = f c) : (ds.map f).Sublist (cs.map f) := by
  induction h with
  | nil => exact List.nil_sublist _
  | cons hdc _ ih =>
    rw [List.map_cons, List.map_cons, hf _ _ hdc]
    exact ih.cons_cons _
  | cons_right _ ih => exact ih.cons _

theorem PrunesAll.names {ds cs : List Column} (h : PrunesAll ds cs) :
    (ds.map name).Sublist (cs.map name) :=
  h.map_sublist fun _ _ h => h.name_eq

theorem Prunes.refl (c : Column) : c.Prunes c := by
  induction c using Column.induct with
  | value l t => exact .value l t
  | frame l s => exact .frame l s
  | group l cs ih =>
    exact .group l (List.sublistForall₂_iff.mpr
      ⟨cs, List.forall₂_same.mpr ih, List.Sublist.refl cs⟩)

theorem PrunesAll.refl (cs : List Column) : PrunesAll cs cs :=
  List.sublistForall₂_iff.mpr
    ⟨cs, List.forall₂_same.mpr fun c _ => Prunes.refl c, List.Sublist.refl cs⟩

theorem Prunes.trans {e d c : Column} (hed : Prunes e d) (hdc : Prunes d c) : Prunes e c := by
  induction c using Column.induct generalizing e d with
  | value l t => cases hdc; exact hed
  | frame l s => cases hdc; exact hed
  | group l cs ih =>
    cases hdc with
    | group l hdc =>
      cases hed with
      | group l hed =>
        rename_i ds es
        refine .group l ?_
        -- The lists are compared from the front, where the columns of `cs` not met are passed over.
        induction hdc generalizing es with
        | nil => cases hed; exact .nil
        | cons_right _ ihs => exact .cons_right (ihs (fun c hc => ih c (.tail _ hc)) hed)
        | cons h _ ihs =>
          have ihs' := fun {es} => @ihs (fun c hc => ih c (.tail _ hc)) es
          cases hed with
          | nil => exact .nil
          | cons he hed => exact .cons (ih _ List.mem_cons_self he h) (ihs' hed)
          | cons_right hed => exact .cons_right (ihs' hed)

theorem Anchored.prune {d c : Column} (h : Prunes d c) (hc : c.Anchored) : d.Anchored := by
  induction c using Column.induct generalizing d with
  | value l t => cases h; exact hc
  | frame l s => cases h; exact hc
  | group l cs ih =>
    cases h with
    | group l h =>
      refine anchored_group.mpr fun d hd => ?_
      obtain ⟨c, hmem, hdc⟩ := PrunesAll.mem h hd
      obtain ⟨hpath, hanch⟩ := anchored_group.mp hc c hmem
      exact ⟨by rw [hdc.path_eq, hpath, hdc.name_eq], ih c hmem hdc hanch⟩

/-- Whatever is left out, a list of columns comes to prunings of some of its columns. -/
theorem prunesAll_filterMap {f : Column → Option Column} {cs : List Column}
    (h : ∀ c ∈ cs, ∀ d, f c = some d → d.Prunes c) : PrunesAll (cs.filterMap f) cs := by
  induction cs with
  | nil => exact .nil
  | cons c rest ih =>
    have hrest := ih fun c hc => h c (.tail _ hc)
    cases hfc : f c with
    | none =>
      rw [List.filterMap_cons_none hfc]
      exact .cons_right hrest
    | some d =>
      rw [List.filterMap_cons_some hfc]
      exact .cons (h c List.mem_cons_self d hfc) hrest

theorem prunes_of_exclude? {excluded : List Path} {c d : Column}
    (h : exclude? excluded c = some d) : d.Prunes c := by
  induction c using Column.induct generalizing d with
  | value l t =>
    rw [exclude?] at h
    split_ifs at h
    cases h
    exact .value l t
  | frame l s =>
    rw [exclude?] at h
    split_ifs at h
    cases h
    exact .frame l s
  | group l cs ih =>
    rw [exclude?, excludeAll_eq_filterMap] at h
    have hall : PrunesAll (cs.filterMap (exclude? excluded)) cs :=
      prunesAll_filterMap fun c hc d hd => ih c hc hd
    split_ifs at h with hpath hbelow
    · split at h
      · cases h
      · next hrest =>
        cases h
        rw [hrest] at hall
        exact .group l hall
    · cases h
      exact .refl _

theorem excludeAll_prunesAll (excluded : List Path) (cs : List Column) :
    PrunesAll (excludeAll excluded cs) cs := by
  rw [excludeAll_eq_filterMap]
  exact prunesAll_filterMap fun _ _ _ h => prunes_of_exclude? h

end ColumnSelection.Column
