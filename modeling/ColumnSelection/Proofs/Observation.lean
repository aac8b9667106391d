import ColumnSelection.Proofs.Outcome
import ColumnSelection.Table.Inference
import Mathlib.Data.List.Induction
import Mathlib.Data.List.Nodup

/-!
# Observing a level key by key

Observing objects one after the other comes to observing, for each key by itself, the values under
that key. The keys stand in the order in which they are first seen.
-/
namespace ColumnSelection

theorem eraseDups_concat (ks : List String) (k : String) :
    (ks ++ [k]).eraseDups = if k ∈ ks then ks.eraseDups else ks.eraseDups ++ [k] := by
  rw [List.eraseDups_append]
  split_ifs with h <;> simp [List.removeAll, h, List.eraseDups_cons]

theorem eraseDups_of_nodup {ks : List String} (h : ks.Nodup) : ks.eraseDups = ks := by
  induction ks using List.reverseRecOn with
  | nil => rfl
  | append_singleton ks k ih =>
    rw [List.nodup_append] at h
    obtain ⟨hks, -, hne⟩ := h
    have hk : k ∉ ks := fun hmem => hne k hmem k (by simp) rfl
    rw [eraseDups_concat, if_neg hk, ih hks]

/-- Keys that have all been seen add nothing. -/
theorem eraseDups_append_of_subset {ks more : List String} (h : more ⊆ ks) :
    (ks ++ more).eraseDups = ks.eraseDups := by
  have hnone : more.removeAll ks = [] := by
    rw [List.removeAll, List.filter_eq_nil_iff]
    exact fun k hk => by simpa using h hk
  rw [List.eraseDups_append, hnone, List.eraseDups_nil, List.append_nil]

theorem nodup_eraseDups (ks : List String) : ks.eraseDups.Nodup := by
  induction ks using List.reverseRecOn with
  | nil => simp
  | append_singleton ks k ih =>
    rw [eraseDups_concat]
    split_ifs with h
    · exact ih
    · rw [List.nodup_append]
      refine ⟨ih, List.nodup_singleton k, fun a ha b hb => ?_⟩
      rw [List.mem_singleton.mp hb]
      rintro rfl
      exact h (List.mem_eraseDups.mp ha)

namespace Entries

variable {α : Type*}

theorem get?_eq_none_iff {key : String} {entries : List (String × α)} :
    get? key entries = none ↔ key ∉ entries.map Prod.fst := by
  rw [← get?_isSome_iff, Bool.not_eq_true, Option.isSome_eq_false_iff, Option.isNone_iff_eq_none]

@[simp] theorem get?_nil (key : String) : get? key ([] : List (String × α)) = none := rfl

@[simp] theorem get?_cons_self (key : String) (value : α) (rest : List (String × α)) :
    get? key ((key, value) :: rest) = some value :=
  if_pos rfl

theorem get?_cons_of_ne {key other : String} (h : other ≠ key) (value : α)
    (rest : List (String × α)) : get? key ((other, value) :: rest) = get? key rest :=
  if_neg h

theorem mem_of_get? {key : String} {value : α} {entries : List (String × α)}
    (h : get? key entries = some value) : (key, value) ∈ entries := by
  induction entries with
  | nil => cases h
  | cons e rest ih =>
    obtain ⟨k, v⟩ := e
    by_cases hk : k = key
    · subst hk
      rw [get?_cons_self] at h
      cases h
      exact List.mem_cons_self
    · rw [get?_cons_of_ne hk] at h
      exact .tail _ (ih h)

/-- Where keys are not repeated, every entry is found under its key. -/
theorem get?_of_mem {entries : List (String × α)} (h : (entries.map Prod.fst).Nodup) {key : String}
    {value : α} (hmem : (key, value) ∈ entries) : get? key entries = some value := by
  induction entries with
  | nil => cases hmem
  | cons e rest ih =>
    obtain ⟨k, v⟩ := e
    rw [List.map_cons, List.nodup_cons] at h
    rcases List.mem_cons.mp hmem with he | hmem
    · cases he
      exact get?_cons_self _ _ _
    · have hne : k ≠ key := fun he => h.1 (List.mem_map.mpr ⟨_, hmem, he.symm⟩)
      rw [get?_cons_of_ne hne]
      exact ih h.2 hmem

end Entries

/-- The number of objects with a key, and the shape of the values under it; a key that was not
observed has neither. -/
def Layout.entry (layout : Layout) (key : String) : Nat × Shape :=
  (Entries.get? key layout).getD (0, .unseen)

namespace Layout

@[simp] theorem entry_nil (key : String) : entry [] key = (0, .unseen) := rfl

@[simp] theorem entry_put_self (key : String) (value : Nat × Shape) (layout : Layout) :
    entry (Entries.put key value layout) key = value := by
  rw [entry, Entries.get?_put_self, Option.getD_some]

theorem entry_put_of_ne {key other : String} (h : other ≠ key) (value : Nat × Shape)
    (layout : Layout) : entry (Entries.put key value layout) other = entry layout other := by
  rw [entry, entry, Entries.get?_put_of_ne h]

/-- A layout without repeated keys consists of the entries of its keys. -/
theorem eq_map_entry {layout : Layout} (h : (layout.map Prod.fst).Nodup) :
    layout = (layout.map Prod.fst).map fun key => (key, entry layout key) := by
  rw [List.map_map]
  refine (List.map_id layout).symm.trans (List.map_congr_left fun e he => ?_)
  rw [Function.comp_apply, entry, Entries.get?_of_mem h he]
  rfl

end Layout

/-- The values under one key in the objects of a level, in their order. -/
def cellsUnder (key : String) (objects : List (List (String × Json))) : List Json :=
  objects.filterMap (Entries.get? key)

theorem cellsUnder_cons (key : String) (fields : List (String × Json))
    (objects : List (List (String × Json))) :
    cellsUnder key (fields :: objects) =
      (Entries.get? key fields).toList ++ cellsUnder key objects := by
  rw [cellsUnder, List.filterMap_cons]
  cases Entries.get? key fields <;> rfl

namespace Shape

/-- The text of the path of a key below another. -/
def keyPath (path key : String) : String :=
  if path.isEmpty then key else path ++ "." ++ key

/-- Observes the values under one key one after the other. -/
def observeCells (path : String) (shape : Shape) (cells : List Json) : Except Failure Shape :=
  cells.foldlM (observe path) shape

/-- Observes the objects of a level one after the other. -/
def observeObjects (path : String) (layout : Layout) (objects : List (List (String × Json))) :
    Except Failure Layout :=
  objects.foldlM (observeFields path) layout

@[simp] theorem observeCells_nil (path : String) (shape : Shape) :
    observeCells path shape [] = .ok shape := rfl

theorem observeCells_cons (path : String) (shape : Shape) (j : Json) (cells : List Json) :
    observeCells path shape (j :: cells) =
      observe path shape j >>= fun shape => observeCells path shape cells := by
  rw [observeCells, List.foldlM_cons]
  rfl

theorem observeCells_append (path : String) (shape : Shape) (cells more : List Json) :
    observeCells path shape (cells ++ more) =
      observeCells path shape cells >>= fun shape => observeCells path shape more := by
  rw [observeCells, List.foldlM_append]
  rfl

theorem observeObjects_cons (path : String) (layout : Layout) (fields : List (String × Json))
    (objects : List (List (String × Json))) :
    observeObjects path layout (fields :: objects) =
      observeFields path layout fields >>= fun layout => observeObjects path layout objects := by
  rw [observeObjects, List.foldlM_cons]
  rfl

theorem observeObjects_append (path : String) (layout : Layout)
    (objects more : List (List (String × Json))) :
    observeObjects path layout (objects ++ more) =
      observeObjects path layout objects >>= fun layout => observeObjects path layout more := by
  rw [observeObjects, List.foldlM_append]
  rfl

theorem observeFields_cons (path : String) (layout : Layout) (key : String) (j : Json)
    (rest : List (String × Json)) :
    observeFields path layout ((key, j) :: rest) =
      observe (keyPath path key) (layout.entry key).2 j >>= fun shape =>
        observeFields path (Entries.put key ((layout.entry key).1 + 1, shape) layout) rest := by
  rw [observeFields]
  rfl

/-- An object acts on each key by the value that it has under it. -/
theorem entry_of_observeFields {path : String} {fields : List (String × Json)}
    (hf : (fields.map Prod.fst).Nodup) {layout layout' : Layout}
    (h : observeFields path layout fields = .ok layout') (key : String) :
    (layout'.entry key).1 = (layout.entry key).1 + (Entries.get? key fields).toList.length ∧
      observeCells (keyPath path key) (layout.entry key).2 (Entries.get? key fields).toList =
        .ok (layout'.entry key).2 := by
  induction fields generalizing layout with
  | nil =>
    rw [observeFields] at h
    cases h
    exact ⟨rfl, rfl⟩
  | cons e rest ih =>
    obtain ⟨k, j⟩ := e
    rw [List.map_cons, List.nodup_cons] at hf
    rw [observeFields_cons, bind_eq_ok] at h
    obtain ⟨shape, hshape, h⟩ := h
    obtain ⟨hcount, hcells⟩ := ih hf.2 h
    by_cases hk : k = key
    · subst hk
      rw [Entries.get?_eq_none_iff.mpr hf.1, Layout.entry_put_self] at hcount hcells
      rw [Entries.get?_cons_self, Option.toList_some, observeCells_cons, hshape]
      exact ⟨hcount, hcells⟩
    · rw [Layout.entry_put_of_ne (Ne.symm hk)] at hcount hcells
      rw [Entries.get?_cons_of_ne hk]
      exact ⟨hcount, hcells⟩

/-- An object is observed when each of its values is, under its key. -/
theorem exists_observeFields {path : String} {fields : List (String × Json)}
    (hf : (fields.map Prod.fst).Nodup) {layout : Layout}
    (h : ∀ key, ∃ shape, observeCells (keyPath path key) (layout.entry key).2
      (Entries.get? key fields).toList = .ok shape) :
    ∃ layout', observeFields path layout fields = .ok layout' := by
  induction fields generalizing layout with
  | nil => exact ⟨layout, rfl⟩
  | cons e rest ih =>
    obtain ⟨k, j⟩ := e
    rw [List.map_cons, List.nodup_cons] at hf
    obtain ⟨shape, hshape⟩ := h k
    rw [Entries.get?_cons_self, Option.toList_some, observeCells_cons, bind_eq_ok] at hshape
    obtain ⟨shape, hshape, -⟩ := hshape
    rw [observeFields_cons, hshape]
    refine ih hf.2 fun key => ?_
    by_cases hk : k = key
    · subst hk
      rw [Entries.get?_eq_none_iff.mpr hf.1]
      exact ⟨_, rfl⟩
    · rw [Layout.entry_put_of_ne (Ne.symm hk), ← Entries.get?_cons_of_ne hk j]
      exact h key

/-- New keys come behind those already there, in their order. -/
theorem keys_of_observeFields {path : String} {fields : List (String × Json)}
    {layout layout' : Layout} (h : observeFields path layout fields = .ok layout')
    {seen : List String} (hl : layout.map Prod.fst = seen.eraseDups) :
    layout'.map Prod.fst = (seen ++ fields.map Prod.fst).eraseDups := by
  induction fields generalizing layout seen with
  | nil =>
    rw [observeFields] at h
    cases h
    simpa using hl
  | cons e rest ih =>
    obtain ⟨k, j⟩ := e
    rw [observeFields_cons, bind_eq_ok] at h
    obtain ⟨shape, -, h⟩ := h
    have hput := Entries.keys_put k ((layout.entry k).1 + 1, shape) layout
    simp only [hl, List.mem_eraseDups, ← eraseDups_concat] at hput
    rw [ih h hput, List.map_cons, List.append_assoc, List.singleton_append]

variable {path : String} {layout layout' : Layout} {objects : List (List (String × Json))}

/-- What the observation of a level leaves under a key depends on the values under it alone. -/
theorem entry_of_observeObjects (ho : ∀ o ∈ objects, (o.map Prod.fst).Nodup)
    (h : observeObjects path layout objects = .ok layout') (key : String) :
    (layout'.entry key).1 = (layout.entry key).1 + (cellsUnder key objects).length ∧
      observeCells (keyPath path key) (layout.entry key).2 (cellsUnder key objects) =
        .ok (layout'.entry key).2 := by
  induction objects generalizing layout with
  | nil =>
    cases h
    exact ⟨rfl, rfl⟩
  | cons fields rest ih =>
    rw [List.forall_mem_cons] at ho
    rw [observeObjects_cons, bind_eq_ok] at h
    obtain ⟨middle, hfields, h⟩ := h
    obtain ⟨hcount, hcells⟩ := entry_of_observeFields ho.1 hfields key
    obtain ⟨hcount', hcells'⟩ := ih ho.2 h
    rw [cellsUnder_cons, List.length_append, observeCells_append, hcells]
    exact ⟨by omega, hcells'⟩

/-- A level is observed when the values under each key are. -/
theorem exists_observeObjects (ho : ∀ o ∈ objects, (o.map Prod.fst).Nodup)
    (h : ∀ key, ∃ shape, observeCells (keyPath path key) (layout.entry key).2
      (cellsUnder key objects) = .ok shape) :
    ∃ layout', observeObjects path layout objects = .ok layout' := by
  induction objects generalizing layout with
  | nil => exact ⟨layout, rfl⟩
  | cons fields rest ih =>
    rw [List.forall_mem_cons] at ho
    simp only [cellsUnder_cons, observeCells_append, bind_eq_ok] at h
    have hfirst : ∀ key, ∃ shape, observeCells (keyPath path key) (layout.entry key).2
        (Entries.get? key fields).toList = .ok shape := by
      intro key
      obtain ⟨-, shape, hshape, -⟩ := h key
      exact ⟨shape, hshape⟩
    obtain ⟨middle, hfields⟩ := exists_observeFields ho.1 hfirst
    rw [observeObjects_cons, hfields]
    refine ih ho.2 fun key => ?_
    obtain ⟨shape, first, hfirst, hshape⟩ := h key
    rw [(entry_of_observeFields ho.1 hfields key).2] at hfirst
    cases hfirst
    exact ⟨shape, hshape⟩

/-- The keys of a level stand in the order in which its objects first show them. -/
theorem keys_of_observeObjects (h : observeObjects path layout objects = .ok layout')
    {seen : List String} (hl : layout.map Prod.fst = seen.eraseDups) :
    layout'.map Prod.fst = (seen ++ objects.flatMap fun o => o.map Prod.fst).eraseDups := by
  induction objects generalizing layout seen with
  | nil =>
    cases h
    simpa using hl
  | cons fields rest ih =>
    rw [observeObjects_cons, bind_eq_ok] at h
    obtain ⟨middle, hfields, h⟩ := h
    rw [ih h (keys_of_observeFields hfields hl), List.flatMap_cons, List.append_assoc]

end Shape

end ColumnSelection
