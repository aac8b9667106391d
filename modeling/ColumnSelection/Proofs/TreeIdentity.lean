import ColumnSelection.Proofs.Referencing
import ColumnSelection.Proofs.SchemaFaults

/-!
# Columns told by their paths

Columns make a tree exactly when siblings have distinct names at every level, in groups as well as
in frame schemas. The tree has the same columns in their places: the path of a column lists the
names on the way to it, no two columns have the same path, and looking a path up finds the column
with that path.
-/
namespace ColumnSelection

namespace Path

/-- No path lies at or below two children of a path with different names. -/
theorem eq_of_startsWith_child {p q : Path} {m n : String}
    (hm : p.startsWith (q.child m) = true) (hn : p.startsWith (q.child n) = true) : m = n := by
  have hstart := List.prefix_of_prefix_length_le (startsWith_iff_segments.mp hm)
    (startsWith_iff_segments.mp hn) (by simp)
  have hsame := hstart.eq_of_length (by simp)
  simpa using hsame

end Path

namespace Column

/-- The column is reached from the columns of a list through groups, by these names. -/
inductive ReachedBy : List Column → List String → Column → Prop
  | here {cs c} : c ∈ cs → ReachedBy cs [c.name] c
  | within {cs l below names c} : .group l below ∈ cs → ReachedBy below names c →
      ReachedBy cs (l.name :: names) c

theorem ReachedBy.mem_preorderAll {cs : List Column} {names : List String} {c : Column}
    (h : ReachedBy cs names c) : c ∈ preorderAll cs := by
  induction h with
  | @here cs c hc => exact Column.mem_preorderAll.mpr ⟨c, hc, c.self_mem_preorder⟩
  | @within cs l below names c hg _ ih =>
    exact Column.mem_preorderAll.mpr ⟨.group l below, hg, mem_preorder_iff.mpr (.inr ih)⟩

theorem exists_reachedBy_of_mem_preorder {c d : Column} (hd : d ∈ c.preorder) {cs : List Column}
    (hc : c ∈ cs) : ∃ names, ReachedBy cs names d := by
  induction c using Column.induct generalizing cs with
  | value l t =>
    obtain rfl := List.mem_singleton.mp hd
    exact ⟨_, .here hc⟩
  | frame l s =>
    obtain rfl := List.mem_singleton.mp hd
    exact ⟨_, .here hc⟩
  | group l below ih =>
    rcases mem_preorder_group.mp hd with rfl | ⟨b, hb, hd⟩
    · exact ⟨_, .here hc⟩
    · obtain ⟨names, hnames⟩ := ih b hb hd hb
      exact ⟨l.name :: names, .within hc hnames⟩

/-- The columns listed before those below them are the columns reached through groups. -/
theorem mem_preorderAll_iff_reachedBy {cs : List Column} {c : Column} :
    c ∈ preorderAll cs ↔ ∃ names, ReachedBy cs names c := by
  constructor
  · intro hc
    obtain ⟨b, hb, hc⟩ := mem_preorderAll.mp hc
    exact exists_reachedBy_of_mem_preorder hc hb
  · rintro ⟨names, h⟩
    exact h.mem_preorderAll

/-- Among columns in their places, a path goes on by the names that lead to its column. -/
theorem ReachedBy.path_eq {parent : Path} {cs : List Column} {names : List String} {c : Column}
    (h : ReachedBy cs names c) (hcs : ∀ d ∈ cs, d.path = parent.child d.name ∧ d.Anchored) :
    c.path = parent ++ ⟨names⟩ := by
  induction h generalizing parent with
  | here hc => exact (hcs _ hc).1
  | within hg _ ih =>
    obtain ⟨hpath, hanch⟩ := hcs _ hg
    rw [ih hanch.children, hpath]
    exact Path.ext (by simp)

section paths

variable {parent : Path} {cs : List Column}

/-- Siblings in their places under distinct names hold no path in common. -/
theorem nodup_paths_flatMap_preorder
    (hcs : ∀ c ∈ cs, c.path = parent.child c.name ∧ c.Anchored) (hnames : (cs.map name).Nodup)
    (hbelow : ∀ c ∈ cs, (c.preorder.map path).Nodup) :
    ((cs.flatMap preorder).map path).Nodup := by
  rw [List.map_flatMap, List.nodup_flatMap]
  refine ⟨hbelow, (List.pairwise_map.mp hnames).imp_of_mem fun {c d} hc hd hne p hpc hpd => ?_⟩
  have hstarts : ∀ b ∈ cs, p ∈ b.preorder.map path → p.startsWith (parent.child b.name) := by
    intro b hb hp
    obtain ⟨held, hheld, rfl⟩ := List.mem_map.mp hp
    rw [← (hcs b hb).1]
    exact ((hcs b hb).2.of_mem_preorder held hheld).1
  exact hne (Path.eq_of_startsWith_child (hstarts c hc hpc) (hstarts d hd hpd))

theorem nodup_paths_preorder {c : Column} (h : c.Anchored) (hnames : c.NamesDistinct) :
    (c.preorder.map path).Nodup := by
  induction c using Column.induct with
  | value l t => exact List.nodup_singleton _
  | frame l s => exact List.nodup_singleton _
  | group l below ih =>
    have hplaced := anchored_group.mp h
    obtain ⟨hdistinct, hbelow⟩ := siblingsDistinct_iff.mp hnames
    rw [preorder_eq, List.map_cons, List.nodup_cons]
    constructor
    · -- What the group holds lies strictly below it.
      intro hmem
      obtain ⟨d, hd, hpath⟩ := List.mem_map.mp hmem
      have habove := h.isAncestorOf_of_mem hd
      exact (Path.isAncestorOf_iff_ne.mp habove).2 hpath.symm
    · rw [preorderAll_eq_flatMap]
      refine nodup_paths_flatMap_preorder hplaced hdistinct fun c hc => ?_
      exact ih c hc (hplaced c hc).2 (hbelow c hc)

theorem nodup_paths_preorderAll (hcs : ∀ c ∈ cs, c.path = parent.child c.name ∧ c.Anchored)
    (hnames : SiblingsDistinct cs) : ((preorderAll cs).map path).Nodup := by
  obtain ⟨hdistinct, hbelow⟩ := siblingsDistinct_iff.mp hnames
  rw [preorderAll_eq_flatMap]
  refine nodup_paths_flatMap_preorder hcs hdistinct fun c hc => ?_
  exact nodup_paths_preorder (hcs c hc).2 (hbelow c hc)

end paths

mutual

/-- The column with empty paths, for itself and for the columns below it through groups. -/
def unplaced : Column → Column
  | .value l t => .value { l with path := .root } t
  | .group l cs => .group { l with path := .root } (unplacedAll cs)
  | .frame l s => .frame { l with path := .root } s
termination_by structural c => c

/-- The columns of a list with empty paths. -/
def unplacedAll : List Column → List Column
  | [] => []
  | c :: rest => unplaced c :: unplacedAll rest
termination_by structural cs => cs

end

@[simp] theorem unplacedAll_eq_map (cs : List Column) : unplacedAll cs = cs.map unplaced := by
  induction cs with
  | nil => rfl
  | cons c rest ih => rw [unplacedAll, ih, List.map_cons]

/-- Moving a column changes nothing but paths. -/
theorem unplaced_rebase (parent : Path) (c : Column) : (c.rebase parent).unplaced = c.unplaced := by
  induction c using Column.induct generalizing parent with
  | value l t => rfl
  | frame l s => rfl
  | group l cs ih =>
    simp only [rebase, unplaced, rebaseAll_eq_map, unplacedAll_eq_map, List.map_map, Label.under,
      Column.group.injEq, true_and]
    exact List.map_congr_left fun c hc => ih c hc _

theorem namesDistinct_rebase (parent : Path) (c : Column) :
    (c.rebase parent).NamesDistinct ↔ c.NamesDistinct := by
  induction c using Column.induct generalizing parent with
  | value l t => rfl
  | frame l s => rfl
  | group l cs ih =>
    rw [rebase, rebaseAll_eq_map, namesDistinct_group, namesDistinct_group, siblingsDistinct_iff,
      siblingsDistinct_iff, List.map_map, List.forall_mem_map]
    simp only [Function.comp_def, name_rebase]
    exact and_congr_right fun _ => forall₂_congr fun c hc => ih c hc _

theorem siblingsDistinct_map_rebase (parent : Path) (cs : List Column) :
    SiblingsDistinct (cs.map (rebase parent)) ↔ SiblingsDistinct cs := by
  rw [siblingsDistinct_iff, siblingsDistinct_iff, List.map_map, List.forall_mem_map]
  simp only [Function.comp_def, name_rebase, namesDistinct_rebase]

end Column

open Column

namespace Tree

theorem exists_build_iff (cs : List Column) : (∃ t, build cs = .ok t) ↔ SiblingsDistinct cs := by
  rw [← siblingsDistinct_map_rebase .root]
  constructor
  · rintro ⟨t, ht⟩
    obtain ⟨hcolumns, hdistinct⟩ := build_eq_ok_iff.mp ht
    exact hcolumns ▸ hdistinct
  · intro hdistinct
    exact ⟨⟨cs.map (rebase .root)⟩, build_eq_ok_iff.mpr ⟨rfl, hdistinct⟩⟩

/-- The paths in a tree tell its columns: each is made of the names on the way to its column, and
leads to that column alone. -/
structure IdentifiedByPath (t : Tree) : Prop where
  path_eq : ∀ names c, ReachedBy t.columns names c → c.path = ⟨names⟩
  nodup : (t.depthFirst.map path).Nodup
  find?_iff : ∀ p c, t.find? p = some c ↔ c ∈ t.depthFirst ∧ c.path = p

theorem WellFormed.nodup_paths_depthFirst {t : Tree} (h : t.WellFormed) :
    (t.depthFirst.map path).Nodup :=
  nodup_paths_preorderAll h.placed h.distinct

theorem WellFormed.identifiedByPath {t : Tree} (h : t.WellFormed) : t.IdentifiedByPath where
  path_eq names c hc := hc.path_eq h.placed
  nodup := h.nodup_paths_depthFirst
  find?_iff p c := by
    constructor
    · intro hc
      exact ⟨h.mem_depthFirst_of_find? hc, (h.path_of_find? hc).1⟩
    · rintro ⟨hc, rfl⟩
      exact h.find?_of_mem_depthFirst hc

/-- Building succeeds exactly for columns with distinct names of siblings at every level and fails
otherwise with a fault of the schema. The tree has these columns, each told by its path. -/
theorem build_identified (cs : List Column) :
    ((∃ t, build cs = .ok t) ↔ SiblingsDistinct cs) ∧
      (¬ SiblingsDistinct cs → ∃ fault, build cs = .error (.schema fault)) ∧
      ∀ t, build cs = .ok t →
        t.columns.map unplaced = cs.map unplaced ∧ t.IdentifiedByPath := by
  have hbuild := exists_build_iff cs
  refine ⟨hbuild, fun hnot => ?_, fun t ht => ⟨?_, ?_⟩⟩
  · refine (schemaFaultOnly_build cs).exists_fault fun t ht => ?_
    exact hnot (hbuild.mp ⟨t, ht⟩)
  · rw [(build_eq_ok_iff.mp ht).1, List.map_map]
    exact List.map_congr_left fun c _ => unplaced_rebase .root c
  · exact (WellFormed.of_build ht).identifiedByPath

/-- Columns of one name stand at the root, in a group and in a frame of the group. Twice in a group
of a schema the name is refused. -/
theorem build_identified_nested :
    let x := topValue "x" ⟨.int, false⟩
    let g := topGroup "g" [x, topFrame "f" [x]]
    let repeated := topFrame "f" [topGroup "h" [x, x]]
    (∃ t, build [x, g] = .ok t ∧ t.IdentifiedByPath ∧
        t.depthFirst.map path = [⟨["x"]⟩, ⟨["g"]⟩, ⟨["g", "x"]⟩, ⟨["g", "f"]⟩]) ∧
      ¬ SiblingsDistinct [g, repeated] ∧
        ∃ fault, build [g, repeated] = .error (.schema fault) := by
  intro x g repeated
  have ht : build [x, g] = .ok ⟨[x, g]⟩ := rfl
  have hrepeated : ¬ SiblingsDistinct [g, repeated] := by
    intro h
    have hchildren := (siblingsDistinct_iff.mp h).2 repeated (by simp)
    simp [repeated, topFrame, topGroup, rebase, SiblingsDistinct] at hchildren
  refine ⟨⟨_, ht, ((build_identified [x, g]).2.2 _ ht).2, rfl⟩, hrepeated, ?_⟩
  exact (build_identified [g, repeated]).2.1 hrepeated

end Tree

end ColumnSelection
