import ColumnSelection.Proofs.Collapsing
import ColumnSelection.Proofs.Referencing
import ColumnSelection.Selection.ColumnLists

/-!
# Columns covered by a group

A group covers a path when the names that lead from it to the path lead to a column through its
children. Where children stand in their places under distinct names, the covered paths are those
of the columns the group holds below itself.
-/
namespace ColumnSelection

open Column

namespace Tree

/-- The names on the way to a column lead to the columns on that way. -/
theorem isSome_lookup_of_append {cs : List Column} {names more : List String} {d : Column}
    (hnames : names ≠ []) (h : lookup cs (names ++ more) = some d) :
    (lookup cs names).isSome := by
  rcases eq_or_ne more [] with rfl | hmore
  · rw [List.append_nil] at h
    exact Option.isSome_of_eq_some h
  · rw [lookup_append hnames hmore, Option.bind_eq_some_iff] at h
    obtain ⟨c, hc, -⟩ := h
    exact Option.isSome_of_eq_some hc

end Tree

namespace Column

theorem foldlM_child? {names : List String} (h : names ≠ []) (c : Column) :
    names.foldlM child? c = Tree.lookup c.children names := by
  induction names generalizing c with
  | nil => exact absurd rfl h
  | cons n rest ih =>
    rw [List.foldlM_cons]
    rcases eq_or_ne rest [] with rfl | hrest
    · rw [Tree.lookup_singleton]
      exact bind_pure (c.child? n)
    · rw [Tree.lookup_cons hrest]
      exact congrArg _ (funext fun d => ih hrest d)

/-- A path is covered when the names leading to it from the group lead to a column in it. -/
theorem covers_iff {g : Column} {p : Path} :
    g.covers p = true ↔
      ∃ names d, p.segments = g.path.segments ++ names ∧
        Tree.lookup g.children names = some d := by
  rw [covers, Bool.and_eq_true, Path.isAncestorOf_iff, Option.isSome_iff_exists]
  constructor
  · rintro ⟨⟨n, rest, hp⟩, d, hd⟩
    rw [hp, Path.length, List.drop_left, foldlM_child? (List.cons_ne_nil _ _)] at hd
    exact ⟨n :: rest, d, hp, hd⟩
  · rintro ⟨names, d, hp, hd⟩
    cases names with
    | nil => simp at hd
    | cons n rest =>
      refine ⟨⟨n, rest, hp⟩, d, ?_⟩
      rw [hp, Path.length, List.drop_left, foldlM_child? (List.cons_ne_nil _ _), hd]

theorem isAncestorOf_of_covers {g : Column} {p : Path} (h : g.covers p = true) :
    g.path.isAncestorOf p = true := by
  rw [covers, Bool.and_eq_true] at h
  exact h.1

/-- In a group whose children stand in their places under distinct names, a held column is found by
the names that its path adds to that of the group. -/
theorem Anchored.exists_lookup_of_mem {g : Column} (hg : g.Anchored) (hnames : g.NamesDistinct)
    {d : Column} (hd : d ∈ preorderAll g.children) :
    ∃ names, d.path.segments = g.path.segments ++ names ∧
      Tree.lookup g.children names = some d := by
  obtain ⟨c, hc, hd⟩ := mem_preorderAll.mp hd
  have hfind : Tree.lookup g.children [c.name] = some c := by
    rw [Tree.lookup_singleton]
    exact find?_name_of_mem (siblingsDistinct_iff.mp hnames.children).1 hc
  obtain ⟨more, hmore⟩ := Tree.exists_lookup_of_mem_preorder hnames.children hfind d hd
  exact ⟨_, (Tree.path_of_lookup hg.children hmore).1, hmore⟩

/-- The covered paths are those of the columns held below the group. -/
theorem Anchored.covers_iff_exists_mem {g : Column} (hg : g.Anchored) (hnames : g.NamesDistinct)
    {p : Path} : g.covers p = true ↔ ∃ d ∈ preorderAll g.children, d.path = p := by
  rw [covers_iff]
  constructor
  · rintro ⟨names, d, hp, hd⟩
    obtain ⟨hpath, -, hmem⟩ := Tree.path_of_lookup hg.children hd
    exact ⟨d, hmem, Path.ext (hpath.trans hp.symm)⟩
  · rintro ⟨d, hd, rfl⟩
    obtain ⟨names, hpath, hfind⟩ := hg.exists_lookup_of_mem hnames hd
    exact ⟨names, d, hpath, hfind⟩

/-- A group covers the paths from below its own down to that of a column it holds. -/
theorem Anchored.covers_of_mem {g : Column} (hg : g.Anchored) (hnames : g.NamesDistinct)
    {d : Column} (hd : d ∈ preorderAll g.children) {p : Path} (hgp : g.path.isAncestorOf p = true)
    (hpd : d.path.startsWith p = true) : g.covers p = true := by
  obtain ⟨names, hpath, hfind⟩ := hg.exists_lookup_of_mem hnames hd
  obtain ⟨n, rest, hp⟩ := (Path.isAncestorOf_iff _ _).mp hgp
  obtain ⟨more, hmore⟩ := Path.startsWith_iff_segments.mp hpd
  have hsplit : n :: rest ++ more = names := by
    rwa [hpath, hp, List.append_assoc, List.append_cancel_left_eq] at hmore
  rw [← hsplit] at hfind
  obtain ⟨b, hb⟩ := Option.isSome_iff_exists.mp
    (Tree.isSome_lookup_of_append (List.cons_ne_nil n rest) hfind)
  exact covers_iff.mpr ⟨n :: rest, b, hp, hb⟩

end Column

/-- At or above every column of a list stands one that no other column of the list is above. -/
theorem exists_outermost {cs : List Column} {c : Column} (hc : c ∈ cs) :
    ∃ g ∈ cs, c.path.startsWith g.path = true ∧ ∀ d ∈ cs, d.path.isAncestorOf g.path = false := by
  induction hn : c.path.length using Nat.strong_induction_on generalizing c with
  | _ n ih =>
    by_cases h : ∃ d ∈ cs, d.path.isAncestorOf c.path = true
    · obtain ⟨d, hd, habove⟩ := h
      rw [Path.isAncestorOf, Bool.and_eq_true, decide_eq_true_iff] at habove
      obtain ⟨g, hg, hdg, houter⟩ := ih _ (hn ▸ habove.1) hd rfl
      exact ⟨g, hg, Path.startsWith_trans habove.2 hdg, houter⟩
    · simp only [not_exists, not_and, Bool.not_eq_true] at h
      exact ⟨c, hc, Path.startsWith_self _, h⟩

theorem mem_simplify_iff {cs : List Column} {c : Column} :
    c ∈ simplify cs ↔ c ∈ distinct cs ∧ ∀ g ∈ distinct cs, g.covers c.path = false := by
  simp [simplify]

end ColumnSelection
