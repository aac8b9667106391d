import ColumnSelection.Proofs.Description
import ColumnSelection.Proofs.Pruning

/-!
# Projecting onto prunings

Projecting a row onto columns without display names narrows its cells one level at a time: a leaf
keeps its cell and a group keeps the cells of its children. Narrowed rows are described by the
prunings that they were narrowed to, so inference on them finds these columns again.
-/
namespace ColumnSelection

open Column Json

namespace Entries

variable {α : Type*}

theorem put_of_not_mem {key : String} (value : α) {entries : List (String × α)}
    (h : key ∉ entries.map Prod.fst) : put key value entries = entries ++ [(key, value)] := by
  induction entries with
  | nil => rfl
  | cons e rest ih =>
    rw [List.map_cons, List.mem_cons, not_or] at h
    rw [put, if_neg (Ne.symm h.1), ih h.2]
    rfl

/-- Entries with distinct keys are written as they are. -/
theorem ofList_of_nodup {writes : List (String × α)} (h : (writes.map Prod.fst).Nodup) :
    ofList writes = writes := by
  induction writes using List.reverseRecOn with
  | nil => rfl
  | append_singleton writes e ih =>
    rw [List.map_append, List.nodup_append] at h
    obtain ⟨hwrites, -, hne⟩ := h
    have hnew : e.1 ∉ writes.map Prod.fst := fun hmem => hne _ hmem e.1 (by simp) rfl
    rw [ofList, List.foldl_append, ← ofList, ih hwrites]
    exact put_of_not_mem e.2 hnew

end Entries

namespace Record

theorem cellAt_cons (j : Json) (name : String) (rest : List String) :
    cellAt j (name :: rest) = (j.get? name).bind fun below => cellAt below rest := by
  rw [cellAt]
  cases j.get? name <;> rfl

theorem cellAt_null {names : List String} (h : names ≠ []) : cellAt .null names = none := by
  cases names with
  | nil => exact absurd rfl h
  | cons name rest => rfl

/-- On the way to a cell a missing value is as good as null. -/
theorem cellAt_cons_getD (j : Json) (name : String) {rest : List String} (h : rest ≠ []) :
    cellAt j (name :: rest) = cellAt ((j.get? name).getD .null) rest := by
  rw [cellAt_cons]
  cases j.get? name with
  | none => exact (cellAt_null h).symm
  | some below => rfl

theorem cellAt_append (j : Json) (names more : List String) :
    cellAt j (names ++ more) = (cellAt j names).bind fun below => cellAt below more := by
  induction names generalizing j with
  | nil => rfl
  | cons name rest ih =>
    rw [List.cons_append, cellAt_cons, cellAt_cons, Option.bind_assoc]
    exact congrArg _ (funext ih)

theorem valueAt_child (r : Record) (p : Path) (name : String) :
    r.valueAt (p.child name) = (r.valueAt p).bind fun j => j.get? name := by
  rw [valueAt, Path.segments_child, cellAt_append]
  refine congrArg _ (funext fun j => ?_)
  rw [cellAt_cons]
  cases j.get? name <;> rfl

@[simp] theorem valueAt_root (r : Record) : r.valueAt .root = some r.payload := rfl

end Record

namespace Column

mutual

/-- What projection keeps of the cell of a column. -/
def narrow : Column → Json → Json
  | .value .., j => j
  | .frame .., j => j
  | .group _ cs, j => if j.isNull then .null else .obj (narrowAll cs j)
termination_by structural c => c

/-- What projection keeps of an object for the columns of a list; missing cells become null. -/
def narrowAll : List Column → Json → List (String × Json)
  | [], _ => []
  | c :: rest, j => (c.name, narrow c ((j.get? c.name).getD .null)) :: narrowAll rest j
termination_by structural cs => cs

end

theorem narrowAll_eq_map (cs : List Column) (j : Json) :
    narrowAll cs j = cs.map fun c => (c.name, c.narrow ((j.get? c.name).getD .null)) := by
  induction cs with
  | nil => rfl
  | cons c rest ih => rw [narrowAll, ih, List.map_cons]

theorem keys_narrowAll (cs : List Column) (j : Json) :
    (narrowAll cs j).map Prod.fst = cs.map name := by
  rw [narrowAll_eq_map, List.map_map]
  rfl

theorem narrow_group (l : Label) (cs : List Column) (j : Json) :
    (Column.group l cs).narrow j = if j.isNull then .null else .obj (narrowAll cs j) := by
  rw [narrow]

@[simp] theorem narrow_null (c : Column) : c.narrow .null = .null := by
  cases c <;> rfl

theorem narrow_of_not_isGroup {c : Column} (h : c.isGroup = false) (j : Json) :
    c.narrow j = j := by
  cases c with
  | value l t => rfl
  | frame l s => rfl
  | group l cs => cases h

/-- Under each key a narrowed object has the narrowed cell of the column with that name. -/
theorem get?_narrowAll_eq (cs : List Column) (j : Json) (n : String) :
    Entries.get? n (narrowAll cs j) =
      (cs.find? (·.name == n)).map fun c => c.narrow ((j.get? n).getD .null) := by
  induction cs with
  | nil => rfl
  | cons c rest ih =>
    by_cases hn : c.name = n
    · rw [narrowAll, hn, Entries.get?_cons_self, List.find?_cons_of_pos (by simpa using hn)]
      rfl
    · rw [narrowAll, Entries.get?_cons_of_ne hn, List.find?_cons_of_neg (by simpa using hn), ih]

theorem get?_narrowAll {cs : List Column} (hcs : (cs.map name).Nodup) {c : Column} (hc : c ∈ cs)
    (j : Json) :
    Entries.get? c.name (narrowAll cs j) = some (c.narrow ((j.get? c.name).getD .null)) := by
  rw [get?_narrowAll_eq, find?_name_of_mem hcs hc]
  rfl

/-- An object to which a group was narrowed has the names of its children as keys. -/
theorem keys_of_narrow {c : Column} (hc : c.isGroup) {j : Json} {fields : List (String × Json)}
    (h : c.narrow j = .obj fields) : fields.map Prod.fst = c.children.map name := by
  cases c with
  | value l t => cases hc
  | frame l s => cases hc
  | group l cs =>
    rw [narrow_group] at h
    split_ifs at h
    cases h
    exact keys_narrowAll cs j

theorem Bare.prune {parent : Path} {d c : Column} (h : d.Prunes c) (hc : c.Bare parent) :
    d.Bare parent := by
  induction c using Column.induct generalizing parent d with
  | value l t => cases h; exact hc
  | frame l s => cases h; exact hc
  | group l cs ih =>
    cases h with
    | group l h =>
      rw [bare_group] at hc ⊢
      refine ⟨hc.1, fun d hd => ?_⟩
      obtain ⟨c, hmem, hdc⟩ := PrunesAll.mem h hd
      exact ih c hmem hdc (hc.2 c hmem)

theorem Bare.prune_of_mem {parent : Path} {ds cs : List Column} (h : PrunesAll ds cs)
    (hcs : ∀ c ∈ cs, c.Bare parent) : ∀ d ∈ ds, d.Bare parent := by
  intro d hd
  obtain ⟨c, hc, hdc⟩ := h.mem hd
  exact (hcs c hc).prune hdc

theorem narrowAll_narrowAll_of {ds cs : List Column} (h : PrunesAll ds cs)
    (hcs : (cs.map name).Nodup)
    (ih : ∀ c ∈ cs, ∀ d : Column, d.Prunes c → ∀ j, d.narrow (c.narrow j) = d.narrow j)
    (j : Json) :
    narrowAll ds (.obj (narrowAll cs j)) = narrowAll ds j := by
  rw [narrowAll_eq_map, narrowAll_eq_map ds]
  refine List.map_congr_left fun d hd => ?_
  obtain ⟨c, hc, hdc⟩ := h.mem hd
  rw [hdc.name_eq, Json.get?, get?_narrowAll hcs hc, Option.getD_some, ih c hc d hdc]

/-- Narrowing to a column and then to a pruning of it is narrowing to the pruning. -/
theorem narrow_narrow {d c : Column} (h : d.Prunes c) (hc : c.NamesDistinct) (j : Json) :
    d.narrow (c.narrow j) = d.narrow j := by
  induction c using Column.induct generalizing d j with
  | value l t => cases h; rfl
  | frame l s => cases h; rfl
  | group l cs ih =>
    cases h with
    | group l h =>
      obtain ⟨hnames, hcs⟩ := siblingsDistinct_iff.mp hc
      have hall := narrowAll_narrowAll_of h hnames (fun c hmem d hd => ih c hmem hd (hcs c hmem)) j
      rw [narrow_group l cs]
      split_ifs with hnull
      · rw [narrow_null, narrow_group, if_pos hnull]
      · rw [narrow_group, if_neg (by simp), hall, narrow_group, if_neg hnull]

theorem narrowAll_narrowAll {ds cs : List Column} (h : PrunesAll ds cs)
    (hcs : SiblingsDistinct cs) (j : Json) :
    narrowAll ds (.obj (narrowAll cs j)) = narrowAll ds j := by
  obtain ⟨hnames, hcs⟩ := siblingsDistinct_iff.mp hcs
  exact narrowAll_narrowAll_of h hnames (fun c hc _ hd => narrow_narrow hd (hcs c hc)) j

theorem merged_getD {j : Json} (hj : j.Merged) (key : String) :
    ((j.get? key).getD .null).Merged := by
  cases hk : j.get? key with
  | none => trivial
  | some below =>
    cases j with
    | obj fields => exact (merged_obj.mp hj).2 _ (Entries.mem_of_get? hk)
    | _ => cases hk

theorem merged_narrow {c : Column} (hc : c.NamesDistinct) {j : Json} (hj : j.Merged) :
    (c.narrow j).Merged := by
  induction c using Column.induct generalizing j with
  | value l t => exact hj
  | frame l s => exact hj
  | group l cs ih =>
    obtain ⟨hnames, hcs⟩ := siblingsDistinct_iff.mp hc
    rw [narrow_group]
    split_ifs
    · trivial
    · refine merged_obj.mpr ⟨by rwa [keys_narrowAll], fun e he => ?_⟩
      rw [narrowAll_eq_map] at he
      obtain ⟨c, hmem, rfl⟩ := List.mem_map.mp he
      exact ih c hmem (hcs c hmem) (merged_getD hj _)

theorem merged_narrowAll {cs : List Column} (hcs : SiblingsDistinct cs)
    {fields : List (String × Json)} (h : (obj fields).Merged) :
    (obj (narrowAll cs (obj fields))).Merged := by
  simpa [narrow_group] using merged_narrow (c := .group default cs) hcs h

end Column

namespace Record

variable (r : Record)

theorem projectCell_of_not_isGroup {c : Column} (hc : c.isGroup = false) :
    r.projectCell c = (r.valueAt c.path).getD .null := by
  cases c with
  | value l t => rfl
  | frame l s => rfl
  | group l cs => cases hc

/-- Only for a null or missing cell is a group not written anew. -/
theorem projectCell_of_isGroup {g : Column} (hg : g.isGroup = true) :
    r.projectCell g = if ((r.valueAt g.path).getD .null).isNull then .null
      else .obj (Entries.ofList (r.projectCells g.children)) := by
  cases g with
  | value l t => cases hg
  | frame l s => cases hg
  | group l cs =>
    rw [projectCell, path_group, children_group]
    cases r.valueAt l.path with
    | none => rfl
    | some j => cases j <;> rfl

/-- The projected cell of a column without display names is its narrowed cell. -/
theorem projectCell_eq_narrow {parent : Path} {c : Column} (hc : c.Bare parent)
    (hd : c.NamesDistinct) : r.projectCell c = c.narrow ((r.valueAt c.path).getD .null) := by
  induction c using Column.induct generalizing parent with
  | value l t => rfl
  | frame l s => rfl
  | group l cs ih =>
    obtain ⟨hnames, hcs⟩ := siblingsDistinct_iff.mp hd
    obtain ⟨hl, hbare⟩ := bare_group.mp hc
    have hpath : ∀ c ∈ cs, c.path = l.path.child c.name := by
      intro c hmem
      rw [(hbare c hmem).path_eq, congrArg Label.path hl]
    have hcells : r.projectCells cs = narrowAll cs ((r.valueAt l.path).getD .null) := by
      rw [projectCells_eq_map, narrowAll_eq_map]
      refine List.map_congr_left fun c hmem => ?_
      rw [(hbare c hmem).displayName_eq, ih c hmem (hbare c hmem) (hcs c hmem), hpath c hmem,
        valueAt_child]
      cases r.valueAt l.path <;> rfl
    rw [projectCell_of_isGroup r rfl, path_group, children_group, narrow_group, hcells,
      Entries.ofList_of_nodup (by rwa [keys_narrowAll])]

/-- Projecting onto columns without display names narrows the payload. -/
theorem project_eq_narrowAll {cs : List Column} (hcs : ∀ c ∈ cs, c.Bare .root)
    (hd : SiblingsDistinct cs) : r.project cs = ⟨r.id, .obj (narrowAll cs r.payload)⟩ := by
  obtain ⟨hnames, hbelow⟩ := siblingsDistinct_iff.mp hd
  have hcells : r.projectCells cs = narrowAll cs r.payload := by
    rw [projectCells_eq_map, narrowAll_eq_map]
    refine List.map_congr_left fun c hc => ?_
    rw [(hcs c hc).displayName_eq, projectCell_eq_narrow r (hcs c hc) (hbelow c hc),
      (hcs c hc).path_eq, valueAt_child, valueAt_root]
    rfl
  rw [project, hcells, Entries.ofList_of_nodup]
  rwa [keys_narrowAll]

/-- Projecting onto columns and then onto prunings of them is projecting onto the prunings. -/
theorem project_project {ds cs : List Column} (h : PrunesAll ds cs)
    (hcs : ∀ c ∈ cs, c.Bare .root) (hd : SiblingsDistinct cs) :
    (r.project cs).project ds = r.project ds := by
  have hds : ∀ d ∈ ds, d.Bare .root := Bare.prune_of_mem h hcs
  rw [project_eq_narrowAll r hcs hd, project_eq_narrowAll _ hds (hd.prune h),
    project_eq_narrowAll r hds (hd.prune h), narrowAll_narrowAll h hd]

end Record

end ColumnSelection
