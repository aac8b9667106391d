import ColumnSelection.Proofs.GroupScope
import Mathlib.Data.List.Infix

/-!
# What a path comes to

Followed from a scope, a path comes to the column that it names below the scope. Without such a
column it stops at the last column on the way: a leaf there is a failure of its own, and in a group
the policy decides about the name that is missing.
-/
namespace ColumnSelection

open Column

theorem Path.segments_ne_nil {p : Path} (hp : p ≠ .root) : p.segments ≠ [] :=
  fun h => hp (Path.ext h)

namespace Tree

/-- The columns that the non-empty beginnings of a list of names lead to, the nearest first. -/
def passed (cs : List Column) (names : List String) : List Column :=
  names.inits.tail.filterMap (lookup cs)

theorem lookup_cons_eq (cs : List Column) (n : String) (rest : List String) :
    lookup cs (n :: rest) =
      (cs.find? (·.name == n)).bind fun c =>
        if rest = [] then some c else lookup c.children rest := by
  rcases eq_or_ne rest [] with rfl | hrest
  · simp [lookup_singleton]
  · simp [lookup_cons hrest, hrest]

theorem passed_cons (cs : List Column) (n : String) (rest : List String) :
    passed cs (n :: rest) =
      (cs.find? (·.name == n)).elim [] fun c => c :: passed c.children rest := by
  unfold passed
  rw [List.inits_cons, List.tail_cons, List.filterMap_map]
  cases hfind : cs.find? (·.name == n) with
  | none =>
    refine List.filterMap_eq_nil_iff.mpr fun names _ => ?_
    rw [Function.comp_apply, lookup_cons_eq, hfind, Option.bind_none]
  | some c =>
    have hbelow : ∀ names ∈ rest.inits.tail, lookup cs (n :: names) = lookup c.children names := by
      intro names hnames
      have hne : names ≠ [] := by
        rintro rfl
        cases rest <;> simp at hnames
      rw [lookup_cons_eq, hfind, Option.bind_some, if_neg hne]
    have hinits : rest.inits = [] :: rest.inits.tail := by
      cases rest <;> rfl
    rw [hinits, List.filterMap_cons_some (lookup_singleton cs n ▸ hfind), Option.elim_some]
    exact congrArg (c :: ·) (List.filterMap_congr hbelow)

end Tree

namespace Scope

open ColumnSelection.Tree

variable {s : Scope} {t : Tree} {whole p : Path}

/-- The end of a way on which the next name is not found: it is missing in a group, and below a
leaf there is none. -/
def stop (s : Scope) (whole : Path) (last : Column) : Logged (List Column) :=
  if last.isGroup then s.unresolved whole.text last.path else .fail (.notAGroup last.path.text)

theorem walk_of_lookup {c d : Column} {names : List String}
    (h : lookup c.children names = some d) : s.walk whole (some c) names = .ok [d] := by
  induction names generalizing c with
  | nil => simp at h
  | cons n rest ih =>
    have hgroup := isGroup_of_lookup h
    rw [lookup_cons_eq, Option.bind_eq_some_iff] at h
    obtain ⟨b, hb, h⟩ := h
    rw [walk, if_pos hgroup, child?, hb]
    split_ifs at h with hrest
    · cases h
      rw [hrest]
      rfl
    · exact ih h

theorem walk_of_lookup_eq_none {c : Column} {names : List String} (hne : names ≠ [])
    (h : lookup c.children names = none) :
    s.walk whole (some c) names =
      s.stop whole ((passed c.children names).getLast?.getD c) := by
  induction names generalizing c with
  | nil => exact absurd rfl hne
  | cons n rest ih =>
    rw [lookup_cons_eq] at h
    rw [walk, passed_cons]
    cases hfind : c.children.find? (·.name == n) with
    | none =>
      rw [child?, hfind]
      rfl
    | some b =>
      have hgroup : c.isGroup = true := isGroup_of_lookup (lookup_singleton c.children n ▸ hfind)
      rw [if_pos hgroup, child?, hfind, Option.elim_some, List.getLast?_cons, Option.getD_some]
      rw [hfind, Option.bind_some] at h
      split_ifs at h with hrest
      exact ih hrest h

theorem atPath_of_lookup (hp : p ≠ .root) {c : Column}
    (h : lookup s.columns p.segments = some c) : s.atPath p = .ok [c] := by
  obtain ⟨n, rest, hsegments⟩ := List.exists_cons_of_ne_nil (Path.segments_ne_nil hp)
  rw [hsegments, lookup_cons_eq, Option.bind_eq_some_iff] at h
  obtain ⟨b, hb, h⟩ := h
  rw [atPath_of_ne_root hp, hsegments, walk, hb]
  split_ifs at h with hrest
  · cases h
    rw [hrest]
    rfl
  · exact walk_of_lookup h

theorem atPath_of_lookup_eq_none (hp : p ≠ .root) (h : lookup s.columns p.segments = none) :
    s.atPath p =
      (passed s.columns p.segments).getLast?.elim (s.unresolved p.text s.path) (s.stop p) := by
  obtain ⟨n, rest, hsegments⟩ := List.exists_cons_of_ne_nil (Path.segments_ne_nil hp)
  rw [hsegments, lookup_cons_eq] at h
  rw [atPath_of_ne_root hp, hsegments, walk, passed_cons]
  cases hfind : s.columns.find? (·.name == n) with
  | none => rfl
  | some b =>
    rw [hfind, Option.bind_some] at h
    split_ifs at h with hrest
    rw [Option.elim_some, List.getLast?_cons]
    exact walk_of_lookup_eq_none hrest h

/-- The scope is the root of a tree or one of its groups. -/
structure IsOf (s : Scope) (t : Tree) : Prop where
  tree_eq : s.tree = t
  group : ∀ g ∈ s.group, g ∈ t.depthFirst ∧ g.isGroup = true

/-- The columns that the non-empty beginnings of a path name below the scope, the nearest first. -/
def onTheWay (s : Scope) (p : Path) : List Column :=
  p.segments.inits.tail.filterMap fun names => s.tree.find? (s.path ++ ⟨names⟩)

/-- The path of the deepest group on the way, or of the scope where there is none. -/
def deepestGroup (s : Scope) (p : Path) : Path :=
  ((s.onTheWay p).filter isGroup).getLast?.elim s.path Column.path

/-- What names lead to from the scope is what the tree has at the path of the scope and them. -/
theorem find?_path_append (ht : t.WellFormed) (hs : s.IsOf t) {names : List String}
    (hne : names ≠ []) : s.tree.find? (s.path ++ ⟨names⟩) = lookup s.columns names := by
  rw [hs.tree_eq, find?, Path.segments_append]
  cases hg : s.group with
  | none =>
    rw [columns, Scope.path, hg, hs.tree_eq]
    rfl
  | some g =>
    have hfind := ht.find?_of_mem_depthFirst (hs.group g hg).1
    have hpath : g.path.segments ≠ [] := by
      intro hnil
      rw [find?, hnil, lookup_nil] at hfind
      cases hfind
    rw [columns, Scope.path, hg, lookup_append hpath hne, ← find?, hfind, Option.bind_some]

theorem onTheWay_eq (ht : t.WellFormed) (hs : s.IsOf t) (p : Path) :
    s.onTheWay p = passed s.columns p.segments := by
  refine List.filterMap_congr fun names hnames => find?_path_append ht hs ?_
  rintro rfl
  cases hp : p.segments with
  | nil =>
    rw [hp] at hnames
    cases hnames
  | cons n rest => simp [hp] at hnames

/-- A way that ends in a group, or before the first column, has that group for its deepest. -/
theorem deepestGroup_eq (h : ∀ c ∈ (s.onTheWay p).getLast?, c.isGroup = true) :
    s.deepestGroup p = (s.onTheWay p).getLast?.elim s.path Column.path := by
  rw [deepestGroup]
  rcases List.eq_nil_or_concat (s.onTheWay p) with hnil | ⟨front, last, hway⟩
  · rw [hnil]
    rfl
  · have hlast : last.isGroup = true := h last (by simp [hway])
    rw [hway, List.concat_eq_append, List.filter_append, List.filter_singleton, hlast]
    simp

section missing

variable (ht : t.WellFormed) (hs : s.IsOf t) (hp : p ≠ .root)
  (hnone : s.tree.find? (s.path ++ p) = none)
include ht hs hp hnone

theorem atPath_of_find?_eq_none :
    s.atPath p = (s.onTheWay p).getLast?.elim (s.unresolved p.text s.path) (s.stop p) := by
  rw [find?_path_append ht hs (Path.segments_ne_nil hp)] at hnone
  rw [atPath_of_lookup_eq_none hp hnone, onTheWay_eq ht hs]

/-- Where no leaf stands in the way, the policy decides about the deepest group. -/
theorem atPath_eq_unresolved (h : ∀ c ∈ (s.onTheWay p).getLast?, c.isGroup = true) :
    s.atPath p = s.unresolved p.text (s.deepestGroup p) := by
  rw [atPath_of_find?_eq_none ht hs hp hnone, deepestGroup_eq h]
  cases hlast : (s.onTheWay p).getLast? with
  | none => rfl
  | some c => exact if_pos (h c hlast)

end missing

end Scope

namespace Tree

/-- A reference by a path comes to the column that the path names below the scope. Else it fails at
a leaf, if the longest beginning of the path that names a column names a leaf, and otherwise the
policy decides: a failure that tells the path and the deepest group on the way, or no columns. The
empty path is not valid. -/
theorem resolve_path_outcome {columns : List Column} {t : Tree} (ht : build columns = .ok t)
    {s : Scope} (hs : s.IsOf t) (p : Path) :
    (p = .root → (Reference.path p).resolve s = .fail (.validation .emptyReference)) ∧
      (p ≠ .root →
        (∀ c, t.find? (s.path ++ p) = some c → (Reference.path p).resolve s = .ok [c]) ∧
        (t.find? (s.path ++ p) = none →
          (∀ c, (s.onTheWay p).getLast? = some c → c.isGroup = false →
            (Reference.path p).resolve s = .fail (.notAGroup c.path.text)) ∧
          ((∀ c, (s.onTheWay p).getLast? = some c → c.isGroup = true) →
            (s.settings.unresolved = .fail → (Reference.path p).resolve s =
              .fail (.missingColumn p.text (s.deepestGroup p).text)) ∧
            (s.settings.unresolved = .skip → (Reference.path p).resolve s =
              ⟨.ok [], [.skipped p.text (s.deepestGroup p).text]⟩)))) := by
  have hwf := WellFormed.of_build ht
  have hresolve : (Reference.path p).resolve s = s.atPath p := rfl
  rw [hresolve, ← hs.tree_eq]
  refine ⟨?_, fun hp => ⟨fun c hc => ?_, fun hnone => ⟨fun c hc hleaf => ?_, fun hgroup => ?_⟩⟩⟩
  · rintro rfl
    rfl
  · rw [Scope.find?_path_append hwf hs (Path.segments_ne_nil hp)] at hc
    exact Scope.atPath_of_lookup hp hc
  · rw [Scope.atPath_of_find?_eq_none hwf hs hp hnone, hc]
    exact if_neg (by simp [hleaf])
  · rw [Scope.atPath_eq_unresolved hwf hs hp hnone hgroup, Scope.unresolved]
    constructor
    · intro hpolicy
      rw [hpolicy]
    · intro hpolicy
      rw [hpolicy]
      rfl

/-- Inside a group, names lead to a column of an inner group, through a leaf, and past an inner
group that lacks the next name. -/
theorem resolve_path_outcome_nested :
    let y := Column.value ⟨"y", ⟨["g", "h", "y"]⟩, none⟩ ⟨.any, true⟩
    let h := Column.group ⟨"h", ⟨["g", "h"]⟩, some "k"⟩ [y]
    let x := Column.frame ⟨"x", ⟨["g", "x"]⟩, none⟩ [topValue "z" ⟨.int, false⟩]
    let g := Column.group ⟨"g", ⟨["g"]⟩, none⟩ [h, x]
    let t : Tree := ⟨[topValue "zz" ⟨.int, false⟩, g]⟩
    let s : Scope := { tree := t, group := some g }
    build t.columns = .ok t ∧ s.IsOf t ∧
      t.find? (s.path ++ ⟨["h", "y"]⟩) = some y ∧
      (Reference.path ⟨["h", "y"]⟩).resolve s = .ok [y] ∧
      t.find? (s.path ++ ⟨["x", "z"]⟩) = none ∧ s.onTheWay ⟨["x", "z"]⟩ = [x] ∧
      (Reference.path ⟨["x", "z"]⟩).resolve s = .fail (.notAGroup "g.x") ∧
      t.find? (s.path ++ ⟨["h", "zz", "y"]⟩) = none ∧ s.onTheWay ⟨["h", "zz", "y"]⟩ = [h] ∧
      (Reference.path ⟨["h", "zz", "y"]⟩).resolve s = .fail (.missingColumn "h.zz.y" "g.h") := by
  intro y h x g t s
  have ht : build t.columns = .ok t := rfl
  have hs : s.IsOf t := ⟨rfl, by simp [s, t, g, depthFirst, preorder, isGroup, kind]⟩
  have hfound : t.find? (s.path ++ ⟨["h", "y"]⟩) = some y := rfl
  have hleaf : t.find? (s.path ++ ⟨["x", "z"]⟩) = none := rfl
  have hleafWay : s.onTheWay ⟨["x", "z"]⟩ = [x] := rfl
  have hmissing : t.find? (s.path ++ ⟨["h", "zz", "y"]⟩) = none := rfl
  have hmissingWay : s.onTheWay ⟨["h", "zz", "y"]⟩ = [h] := rfl
  refine ⟨ht, hs, hfound, ?_, hleaf, hleafWay, ?_, hmissing, hmissingWay, ?_⟩
  · exact ((resolve_path_outcome ht hs _).2 (by decide)).1 y hfound
  · exact (((resolve_path_outcome ht hs _).2 (by decide)).2 hleaf).1 x (by rw [hleafWay]; rfl) rfl
  · have hgroup : ∀ c, (s.onTheWay ⟨["h", "zz", "y"]⟩).getLast? = some c → c.isGroup = true := by
      rw [hmissingWay]
      rintro c ⟨⟩
      rfl
    exact ((((resolve_path_outcome ht hs _).2 (by decide)).2 hmissing).2 hgroup).1 rfl

end Tree

end ColumnSelection
