import ColumnSelection.Proofs.Cells
import ColumnSelection.Proofs.TreeLookup
import ColumnSelection.Table.Basic

/-!
# What inference finds

A level consists of the objects that stand at one place: the rows, the objects in a group column,
or those in the arrays of a frame column. Its columns are the keys of its objects in the order of
their first appearance, and each is told by the values under its key and by whether some object
lacks it.
-/
namespace ColumnSelection

open Column Json

/-- The keys of the objects of a level, in the order of their first appearance. -/
def levelKeys (objects : List (List (String × Json))) : List String :=
  (objects.flatMap fun o => o.map Prod.fst).eraseDups

/-- Whether some object of a level lacks a key. -/
def lacksKey (key : String) (objects : List (List (String × Json))) : Bool :=
  objects.any fun o => (Entries.get? key o).isNone

/-- The type of a value column with these cells: the least base type above them, accepting nulls
when some cell is missing or null or when no cell has a type. -/
def cellType (missing : Bool) (cells : List Json) : DataType :=
  ⟨BaseType.join (cells.filterMap base?),
    missing || cells.any isNull || (cells.filterMap base?).isEmpty⟩

namespace Column

mutual

/-- The column is the one for cells with these values; `missing` says whether some object of the
level lacks it. -/
def Describes (missing : Bool) (cells : List Json) : Column → Prop
  | .value _ t => (∀ j ∈ cells, j.isPlain = true) ∧ t = cellType missing cells
  | .group _ cs =>
    (∀ j ∈ cells, j.isNull = true ∨ j.isObject = true) ∧ cells.filterMap fields? ≠ [] ∧
      cs.map name = levelKeys (cells.filterMap fields?) ∧
        DescribesEach (cells.filterMap fields?) cs
  | .frame _ s =>
    (∀ j ∈ cells, j.isFrameCell = true) ∧ cells.any isTable = true ∧
      s.map name = levelKeys (cells.flatMap tableRows) ∧
        DescribesEach (cells.flatMap tableRows) s
termination_by structural c => c

/-- Each column of the list is the one for the values under its name in these objects. -/
def DescribesEach (objects : List (List (String × Json))) : List Column → Prop
  | [] => True
  | c :: rest =>
    Describes (lacksKey c.name objects) (cellsUnder c.name objects) c ∧
      DescribesEach objects rest
termination_by structural cs => cs

end

theorem describesEach_iff {objects : List (List (String × Json))} {cs : List Column} :
    DescribesEach objects cs ↔
      ∀ c ∈ cs, Describes (lacksKey c.name objects) (cellsUnder c.name objects) c := by
  induction cs with
  | nil => simp [DescribesEach]
  | cons c rest ih => simp [DescribesEach, ih]

/-- The columns are those of the level of these objects. -/
structure DescribesLevel (objects : List (List (String × Json))) (cs : List Column) : Prop where
  names : cs.map name = levelKeys objects
  each : ∀ c ∈ cs, Describes (lacksKey c.name objects) (cellsUnder c.name objects) c

mutual

/-- The column stands beneath the parent without a display name, and so do the columns below it,
those of a frame beneath the root of its own tables. -/
def Bare (parent : Path) : Column → Prop
  | .value l _ => l = ⟨l.name, parent.child l.name, none⟩
  | .group l cs => l = ⟨l.name, parent.child l.name, none⟩ ∧ BareAll (parent.child l.name) cs
  | .frame l s => l = ⟨l.name, parent.child l.name, none⟩ ∧ BareAll .root s
termination_by structural c => c

/-- The columns of the list stand beneath the parent without display names. -/
def BareAll (parent : Path) : List Column → Prop
  | [] => True
  | c :: rest => Bare parent c ∧ BareAll parent rest
termination_by structural cs => cs

end

theorem bareAll_iff {parent : Path} {cs : List Column} :
    BareAll parent cs ↔ ∀ c ∈ cs, c.Bare parent := by
  induction cs with
  | nil => simp [BareAll]
  | cons c rest ih => simp [BareAll, ih]

section cases

variable {missing : Bool} {cells : List Json} {parent : Path} {l : Label} {cs : List Column}

theorem describes_group : Describes missing cells (.group l cs) ↔
    (∀ j ∈ cells, j.isNull = true ∨ j.isObject = true) ∧ cells.filterMap fields? ≠ [] ∧
      DescribesLevel (cells.filterMap fields?) cs := by
  rw [Describes, describesEach_iff]
  exact and_congr_right fun _ => and_congr_right fun _ => ⟨fun h => ⟨h.1, h.2⟩, fun h => ⟨h.1, h.2⟩⟩

theorem describes_frame : Describes missing cells (.frame l cs) ↔
    (∀ j ∈ cells, j.isFrameCell = true) ∧ cells.any isTable = true ∧
      DescribesLevel (cells.flatMap tableRows) cs := by
  rw [Describes, describesEach_iff]
  exact and_congr_right fun _ => and_congr_right fun _ => ⟨fun h => ⟨h.1, h.2⟩, fun h => ⟨h.1, h.2⟩⟩

theorem bare_group : (Column.group l cs).Bare parent ↔
    l = ⟨l.name, parent.child l.name, none⟩ ∧ ∀ c ∈ cs, c.Bare (parent.child l.name) := by
  rw [Bare, bareAll_iff]

theorem bare_frame : (Column.frame l cs).Bare parent ↔
    l = ⟨l.name, parent.child l.name, none⟩ ∧ ∀ c ∈ cs, c.Bare .root := by
  rw [Bare, bareAll_iff]

end cases

theorem Bare.label_eq {parent : Path} {c : Column} (h : c.Bare parent) :
    c.label = ⟨c.name, parent.child c.name, none⟩ := by
  cases c with
  | value l t => exact h
  | group l cs => exact (bare_group.mp h).1
  | frame l s => exact (bare_frame.mp h).1

theorem Bare.path_eq {parent : Path} {c : Column} (h : c.Bare parent) :
    c.path = parent.child c.name :=
  congrArg Label.path h.label_eq

theorem Bare.displayName_eq {parent : Path} {c : Column} (h : c.Bare parent) :
    c.displayName = c.name := by
  rw [displayName, Label.displayName, h.label_eq]
  rfl

theorem Bare.anchored {parent : Path} {c : Column} (h : c.Bare parent) : c.Anchored := by
  induction c using Column.induct generalizing parent with
  | value l t => trivial
  | frame l s => trivial
  | group l cs ih =>
    obtain ⟨hl, hcs⟩ := bare_group.mp h
    refine anchored_group.mpr fun c hc => ⟨?_, ih c hc (hcs c hc)⟩
    rw [(hcs c hc).path_eq, congrArg Label.path hl]

end Column

section merged

variable {objects : List (List (String × Json))} {cells : List Json}

theorem merged_obj {fields : List (String × Json)} :
    (obj fields).Merged ↔ (fields.map Prod.fst).Nodup ∧ ∀ e ∈ fields, e.2.Merged := by
  rw [Merged, mergedFields_iff]

theorem merged_arr {items : List Json} : (arr items).Merged ↔ ∀ j ∈ items, j.Merged := by
  rw [Merged]
  induction items with
  | nil => simp [MergedItems]
  | cons j rest ih => simp [MergedItems, ih]

theorem merged_cellsUnder (h : ∀ o ∈ objects, (obj o).Merged) (key : String) :
    ∀ j ∈ cellsUnder key objects, j.Merged := by
  intro j hj
  obtain ⟨o, ho, hj⟩ := List.mem_filterMap.mp hj
  exact (merged_obj.mp (h o ho)).2 _ (Entries.mem_of_get? hj)

theorem merged_fields (h : ∀ j ∈ cells, j.Merged) :
    ∀ o ∈ cells.filterMap fields?, (obj o).Merged := by
  intro o ho
  obtain ⟨j, hj, ho⟩ := List.mem_filterMap.mp ho
  cases j with
  | obj fields => cases ho; exact h _ hj
  | _ => cases ho

theorem merged_tableRows (h : ∀ j ∈ cells, j.Merged) :
    ∀ o ∈ cells.flatMap tableRows, (obj o).Merged := by
  intro o ho
  obtain ⟨j, hj, ho⟩ := List.mem_flatMap.mp ho
  obtain ⟨i, hi, ho⟩ := List.mem_filterMap.mp ho
  have hitems : ∀ i ∈ j.items, i.Merged := by
    cases j with
    | arr items => exact merged_arr.mp (h _ hj)
    | _ => simp [Json.items]
  cases i with
  | obj fields => cases ho; exact hitems _ hi
  | _ => cases ho

end merged

section levelKeys

variable {objects : List (List (String × Json))} {key : String}

theorem mem_levelKeys : key ∈ levelKeys objects ↔ ∃ o ∈ objects, (Entries.get? key o).isSome := by
  rw [levelKeys, List.mem_eraseDups, List.mem_flatMap]
  simp only [Entries.get?_isSome_iff]

theorem nodup_levelKeys (objects : List (List (String × Json))) : (levelKeys objects).Nodup :=
  nodup_eraseDups _

theorem cellsUnder_eq_nil (h : key ∉ levelKeys objects) : cellsUnder key objects = [] := by
  refine List.filterMap_eq_nil_iff.mpr fun o ho => ?_
  rw [mem_levelKeys, not_exists] at h
  simpa [ho] using h o

/-- Some object lacks the key when there are fewer values under it than objects. -/
theorem lacksKey_eq : lacksKey key objects =
    decide ((cellsUnder key objects).length < objects.length) := by
  rw [Bool.eq_iff_iff, decide_eq_true_iff, cellsUnder, List.length_filterMap_lt_length_iff_exists,
    lacksKey, List.any_eq_true]
  simp

end levelKeys

namespace Shape

theorem columnsOf_eq_map (seen : Nat) (layout : Layout) :
    columnsOf seen layout =
      layout.map fun e => toColumn e.1 (decide (e.2.1 < seen)) e.2.2 := by
  induction layout with
  | nil => rfl
  | cons e rest ih => rw [columnsOf, ih, List.map_cons]

theorem name_toColumn (name : String) (missing : Bool) (shape : Shape) :
    (toColumn name missing shape).name = name := by
  cases shape <;> rfl

/-- The columns of an observed level, one for each key. -/
theorem columnsOf_of_observeObjects {path : String} {layout : Layout}
    {objects : List (List (String × Json))} (ho : ∀ o ∈ objects, (obj o).Merged)
    (h : observeObjects path [] objects = .ok layout) :
    columnsOf objects.length layout = (levelKeys objects).map fun key =>
      toColumn key (lacksKey key objects) (layout.entry key).2 := by
  have hnil : ([] : Layout).map Prod.fst = ([] : List String).eraseDups := rfl
  have hkeys : layout.map Prod.fst = levelKeys objects := keys_of_observeObjects h hnil
  have hnodup : (layout.map Prod.fst).Nodup := hkeys ▸ nodup_levelKeys objects
  have hfields : ∀ o ∈ objects, (o.map Prod.fst).Nodup := fun o ho' => (merged_obj.mp (ho o ho')).1
  rw [columnsOf_eq_map]
  conv_lhs => rw [Layout.eq_map_entry hnodup, hkeys, List.map_map]
  refine List.map_congr_left fun key _ => ?_
  obtain ⟨hcount, -⟩ := entry_of_observeObjects hfields h key
  rw [Layout.entry_nil, Nat.zero_add] at hcount
  rw [Function.comp_apply, lacksKey_eq, hcount]

end Shape

namespace Shape

/-- The column made of some values and moved beneath a parent. -/
def Gives (path name : String) (missing : Bool) (parent : Path) (cells : List Json) (c : Column) :
    Prop :=
  ∃ shape, observeCells path .unseen cells = .ok shape ∧
    (toColumn name missing shape).rebase parent = c

/-- The columns made of some objects and moved beneath a parent. -/
def GivesLevel (path : String) (parent : Path) (objects : List (List (String × Json)))
    (cs : List Column) : Prop :=
  ∃ layout, observeObjects path [] objects = .ok layout ∧
    (columnsOf objects.length layout).map (rebase parent) = cs

/-- Values give a column exactly when it describes them. -/
def GivesExactly (c : Column) : Prop :=
  ∀ (path name : String) (missing : Bool) (parent : Path) (cells : List Json),
    (∀ j ∈ cells, j.Merged) →
      (Gives path name missing parent cells c ↔
        c.name = name ∧ c.Bare parent ∧ c.Describes missing cells)

theorem givesLevel_iff_of {cs : List Column} (ih : ∀ c ∈ cs, GivesExactly c) (path : String)
    (parent : Path) {objects : List (List (String × Json))} (ho : ∀ o ∈ objects, (obj o).Merged) :
    GivesLevel path parent objects cs ↔ (∀ c ∈ cs, c.Bare parent) ∧ DescribesLevel objects cs := by
  have hfields : ∀ o ∈ objects, (o.map Prod.fst).Nodup := fun o ho' => (merged_obj.mp (ho o ho')).1
  constructor
  · rintro ⟨layout, h, hcs⟩
    rw [columnsOf_of_observeObjects ho h, List.map_map] at hcs
    have hnames : cs.map name = levelKeys objects := by
      rw [← hcs, List.map_map]
      refine (List.map_congr_left fun key _ => ?_).trans (List.map_id _)
      rw [Function.comp_apply, Function.comp_apply, name_rebase, name_toColumn]
      rfl
    have hcell : ∀ c ∈ cs, c.Bare parent ∧
        Describes (lacksKey c.name objects) (cellsUnder c.name objects) c := by
      intro c hc
      rw [← hcs] at hc
      obtain ⟨key, -, rfl⟩ := List.mem_map.mp hc
      rw [Function.comp_apply, name_rebase, name_toColumn]
      refine (((ih _ (hcs ▸ hc)) (keyPath path key) key (lacksKey key objects) parent _
        (merged_cellsUnder ho key)).mp ⟨(layout.entry key).2, ?_, rfl⟩).2
      exact (entry_of_observeObjects hfields h key).2
    exact ⟨fun c hc => (hcell c hc).1, hnames, fun c hc => (hcell c hc).2⟩
  · rintro ⟨hbare, hlevel⟩
    have hgives : ∀ c ∈ cs, Gives (keyPath path c.name) c.name (lacksKey c.name objects) parent
        (cellsUnder c.name objects) c := fun c hc =>
      (ih c hc _ _ _ _ _ (merged_cellsUnder ho _)).mpr ⟨rfl, hbare c hc, hlevel.each c hc⟩
    have hobserve : ∃ layout, observeObjects path [] objects = .ok layout := by
      refine exists_observeObjects hfields fun key => ?_
      rw [Layout.entry_nil]
      -- A key that no object has leaves nothing to observe.
      by_cases hkey : key ∈ levelKeys objects
      · rw [← hlevel.names] at hkey
        obtain ⟨c, hc, rfl⟩ := List.mem_map.mp hkey
        obtain ⟨shape, hshape, -⟩ := hgives c hc
        exact ⟨shape, hshape⟩
      · rw [cellsUnder_eq_nil hkey]
        exact ⟨.unseen, rfl⟩
    obtain ⟨layout, h⟩ := hobserve
    refine ⟨layout, h, ?_⟩
    rw [columnsOf_of_observeObjects ho h, ← hlevel.names, List.map_map, List.map_map]
    refine (List.map_congr_left fun c hc => ?_).trans (List.map_id cs)
    obtain ⟨shape, hshape, hc'⟩ := hgives c hc
    have hentry := (entry_of_observeObjects hfields h c.name).2
    rw [Layout.entry_nil, hshape] at hentry
    cases hentry
    exact hc'

theorem toColumn_ofPlain (name : String) (missing : Bool) (cells : List Json) :
    toColumn name missing (ofPlain cells) = .topValue name (cellType missing cells) := by
  rw [ofPlain]
  split_ifs with hnil hbase
  · simp [toColumn, cellType, hnil, BaseType.join]
  · simp [toColumn, cellType, hbase, BaseType.join]
  · have hne : (cells.filterMap base?).isEmpty = false := by
      rw [← Bool.not_eq_true, List.isEmpty_iff]
      exact hbase
    cases missing <;> simp [toColumn, cellType, DataType.orNull, hne]

theorem givesExactly_value (l : Label) (t : DataType) : GivesExactly (.value l t) := by
  intro path name missing parent cells _
  constructor
  · rintro ⟨shape, h, hc⟩
    have hs : shape.isLevel = false := by
      cases shape <;> first | rfl | cases hc
    obtain ⟨hplain, rfl⟩ := eq_ofPlain_of_fits (observeCells_eq_ok_iff.mp h) hs
    rw [toColumn_ofPlain] at hc
    cases hc
    exact ⟨rfl, rfl, hplain, rfl⟩
  · rintro ⟨rfl, hbare, hplain, rfl⟩
    refine ⟨ofPlain cells, observeCells_eq_ok_iff.mpr (fits_ofPlain hplain), ?_⟩
    rw [toColumn_ofPlain]
    exact congrArg (Column.value · _) hbare.symm

theorem rebase_topGroup (parent : Path) (name : String) (cs : List Column) :
    (topGroup name cs).rebase parent =
      .group ⟨name, parent.child name, none⟩ (cs.map (rebase (parent.child name))) := by
  simp [topGroup, rebase, rebase_rebase, Label.under, Label.top]

theorem rebase_topFrame (parent : Path) (name : String) (cs : List Column) :
    (topFrame name cs).rebase parent =
      .frame ⟨name, parent.child name, none⟩ (cs.map (rebase .root)) := rfl

/-- Each column is inferred for exactly the values that it describes. -/
theorem givesExactly (c : Column) : GivesExactly c := by
  induction c using Column.induct with
  | value l t => exact givesExactly_value l t
  | group l cs ih =>
    intro path name missing parent cells hm
    have hlevel := givesLevel_iff_of ih path (parent.child name) (merged_fields hm)
    rw [describes_group, bare_group]
    constructor
    · rintro ⟨shape, h, hc⟩
      have hfits := observeCells_eq_ok_iff.mp h
      cases shape with
      | group seen layout =>
        obtain ⟨hcells, hne, rfl, hlayout⟩ := hfits
        rw [toColumn, rebase_topGroup] at hc
        obtain ⟨hbare, hdesc⟩ := hlevel.mp ⟨layout, hlayout, (Column.group.inj hc).2⟩
        obtain rfl := (Column.group.inj hc).1
        exact ⟨rfl, ⟨rfl, hbare⟩, hcells, hne, hdesc⟩
      | _ => cases hc
    · rintro ⟨rfl, ⟨hl, hbare⟩, hcells, hne, hdesc⟩
      obtain ⟨layout, hlayout, hcs⟩ := hlevel.mpr ⟨hbare, hdesc⟩
      refine ⟨.group _ layout, observeCells_eq_ok_iff.mpr ⟨hcells, hne, rfl, hlayout⟩, ?_⟩
      rw [toColumn, rebase_topGroup, hcs, name_group, ← hl]
  | frame l s ih =>
    intro path name missing parent cells hm
    have hlevel := givesLevel_iff_of ih path .root (merged_tableRows hm)
    rw [describes_frame, bare_frame]
    constructor
    · rintro ⟨shape, h, hc⟩
      have hfits := observeCells_eq_ok_iff.mp h
      cases shape with
      | frame seen layout =>
        obtain ⟨hcells, hne, rfl, hlayout⟩ := hfits
        rw [toColumn, rebase_topFrame] at hc
        obtain ⟨hbare, hdesc⟩ := hlevel.mp ⟨layout, hlayout, (Column.frame.inj hc).2⟩
        obtain rfl := (Column.frame.inj hc).1
        exact ⟨rfl, ⟨rfl, hbare⟩, hcells, hne, hdesc⟩
      | _ => cases hc
    · rintro ⟨rfl, ⟨hl, hbare⟩, hcells, hne, hdesc⟩
      obtain ⟨layout, hlayout, hcs⟩ := hlevel.mpr ⟨hbare, hdesc⟩
      refine ⟨.frame _ layout, observeCells_eq_ok_iff.mpr ⟨hcells, hne, rfl, hlayout⟩, ?_⟩
      rw [toColumn, rebase_topFrame, hcs, name_frame, ← hl]

end Shape

namespace Column

theorem Describes.namesDistinct {c : Column} {missing : Bool} {cells : List Json}
    (h : c.Describes missing cells) : c.NamesDistinct := by
  induction c using Column.induct generalizing missing cells with
  | value l t => trivial
  | group l cs ih =>
    obtain ⟨-, -, hlevel⟩ := describes_group.mp h
    rw [namesDistinct_group, siblingsDistinct_iff, hlevel.names]
    exact ⟨nodup_levelKeys _, fun c hc => ih c hc (hlevel.each c hc)⟩
  | frame l s ih =>
    obtain ⟨-, -, hlevel⟩ := describes_frame.mp h
    rw [namesDistinct_frame, siblingsDistinct_iff, hlevel.names]
    exact ⟨nodup_levelKeys _, fun c hc => ih c hc (hlevel.each c hc)⟩

theorem DescribesLevel.siblingsDistinct {objects : List (List (String × Json))}
    {cs : List Column} (h : DescribesLevel objects cs) : SiblingsDistinct cs := by
  rw [siblingsDistinct_iff, h.names]
  exact ⟨nodup_levelKeys _, fun c hc => (h.each c hc).namesDistinct⟩

end Column

namespace Shape

theorem givesLevel_iff (path : String) {parent : Path} {objects : List (List (String × Json))}
    (ho : ∀ o ∈ objects, (obj o).Merged) {cs : List Column} :
    GivesLevel path parent objects cs ↔ (∀ c ∈ cs, c.Bare parent) ∧ DescribesLevel objects cs :=
  givesLevel_iff_of (fun c _ => givesExactly c) path parent ho

mutual

theorem bare_toColumn (parent : Path) (name : String) (missing : Bool) :
    ∀ shape, ((toColumn name missing shape).rebase parent).Bare parent
  | .unseen => rfl
  | .onlyNull => rfl
  | .scalar _ => rfl
  | .group seen layout => by
    rw [toColumn, rebase_topGroup, bare_group]
    exact ⟨rfl, bare_columnsOf _ seen layout⟩
  | .frame seen layout => by
    rw [toColumn, rebase_topFrame, bare_frame]
    exact ⟨rfl, bare_columnsOf _ seen layout⟩
termination_by structural shape => shape

theorem bare_columnsOf (parent : Path) (seen : Nat) :
    ∀ layout, ∀ c ∈ (columnsOf seen layout).map (rebase parent), c.Bare parent
  | [] => by simp [columnsOf]
  | (name, count, shape) :: rest => by
    rw [columnsOf, List.map_cons, List.forall_mem_cons]
    exact ⟨bare_toColumn parent name _ shape, bare_columnsOf parent seen rest⟩
termination_by structural layout => layout

end

end Shape

section rowObjects

/-- The rows of a batch that are objects. -/
def rowObjects (rows : List Record) : List (List (String × Json)) :=
  rows.filterMap fun r => r.payload.fields?

variable {rows : List Record}

theorem mem_rowObjects {o : List (String × Json)} :
    o ∈ rowObjects rows ↔ ∃ r ∈ rows, r.payload = obj o := by
  simp only [rowObjects, List.mem_filterMap, fields?_eq_some_iff]

theorem length_rowObjects (h : ∀ r ∈ rows, r.payload.isObject = true) :
    (rowObjects rows).length = rows.length := by
  refine List.filterMap_length_eq_length.mpr fun r hr => ?_
  obtain ⟨fields, hfields⟩ := isObject_iff.mp (h r hr)
  rw [hfields]
  rfl

theorem merged_rowObjects (h : ∀ r ∈ rows, r.payload.Merged) :
    ∀ o ∈ rowObjects rows, (obj o).Merged := by
  intro o ho
  obtain ⟨r, hr, hpayload⟩ := mem_rowObjects.mp ho
  exact hpayload ▸ h r hr

end rowObjects

/-- Rows are observed when they are objects, as the objects of one level. -/
theorem Layout.ofRows_eq_ok_iff {index : Nat} {layout layout' : Layout} {rows : List Record} :
    Layout.ofRows index layout rows = .ok layout' ↔
      (∀ r ∈ rows, r.payload.isObject = true) ∧
        Shape.observeObjects "" layout (rowObjects rows) = .ok layout' := by
  induction rows generalizing index layout with
  | nil => exact (and_iff_right nofun).symm
  | cons r rest ih =>
    rw [Layout.ofRows, List.forall_mem_cons]
    cases hr : r.payload with
    | obj fields =>
      have hobjects : rowObjects (r :: rest) = fields :: rowObjects rest := by
        rw [rowObjects, List.filterMap_cons_some (by rw [hr]; rfl)]
        rfl
      rw [hobjects, Shape.observeObjects_cons, bind_eq_ok, bind_eq_ok, isObject_obj]
      simp only [ih, true_and]
      constructor
      · rintro ⟨middle, hfields, hobj, h⟩
        exact ⟨hobj, middle, hfields, h⟩
      · rintro ⟨hobj, middle, hfields, h⟩
        exact ⟨middle, hfields, hobj, h⟩
    | _ => exact iff_of_false nofun fun h => nomatch h.1.1

namespace Tree

variable {rows : List Record} {t : Tree}

theorem bare_of_infer (h : infer rows = .ok t) : ∀ c ∈ t.columns, c.Bare .root := by
  obtain ⟨layout, -, ht⟩ := bind_eq_ok.mp h
  rw [(build_eq_ok_iff.mp ht).1]
  exact Shape.bare_columnsOf _ _ _

theorem WellFormed.of_infer (h : infer rows = .ok t) : t.WellFormed := by
  obtain ⟨layout, -, ht⟩ := bind_eq_ok.mp h
  exact .of_build ht

/-- Inference succeeds on rows that are objects described by some columns, and gives these. -/
theorem infer_eq_ok_iff (hrows : ∀ r ∈ rows, r.payload.Merged) :
    infer rows = .ok t ↔ (∀ r ∈ rows, r.payload.isObject = true) ∧
      (∀ c ∈ t.columns, c.Bare .root) ∧ DescribesLevel (rowObjects rows) t.columns := by
  have hlevel : Shape.GivesLevel "" .root (rowObjects rows) t.columns ↔
      (∀ c ∈ t.columns, c.Bare .root) ∧ DescribesLevel (rowObjects rows) t.columns :=
    Shape.givesLevel_iff "" (merged_rowObjects hrows)
  rw [infer]
  simp only [bind_eq_ok, Layout.ofRows_eq_ok_iff, build_eq_ok_iff]
  constructor
  · rintro ⟨layout, ⟨hobj, hlayout⟩, ht, -⟩
    exact ⟨hobj, hlevel.mp ⟨layout, hlayout, by rw [length_rowObjects hobj, ht]⟩⟩
  · rintro ⟨hobj, hdesc⟩
    obtain ⟨layout, hlayout, ht⟩ := hlevel.mpr hdesc
    rw [length_rowObjects hobj] at ht
    exact ⟨layout, ⟨hobj, hlayout⟩, ht.symm, hdesc.2.siblingsDistinct⟩

end Tree

/-- A table of a batch has the rows of the batch and the columns found in them. -/
theorem Table.ofRecords_eq_ok_iff {batch : List Record} {t : Table} :
    ofRecords batch = .ok t ↔ Tree.infer batch = .ok t.tree ∧ t.records = batch := by
  constructor
  · intro h
    obtain ⟨tree, hinfer, he⟩ := bind_eq_ok.mp h
    cases he
    exact ⟨hinfer, rfl⟩
  · rintro ⟨hinfer, rfl⟩
    exact bind_eq_ok.mpr ⟨t.tree, hinfer, rfl⟩

end ColumnSelection
