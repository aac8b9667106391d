import ColumnSelection.Column.Basic
import Mathlib.Data.List.Infix

/-!
# Columns held by a column

Below an anchored column the paths grow by one name at each step, so the columns on the way from
it down to a held one are told by their paths alone. The leaves of a column are the value and
frame columns that it holds.
-/
namespace ColumnSelection

namespace Path

theorem startsWith_iff_segments {p q : Path} :
    p.startsWith q = true ↔ q.segments <+: p.segments := by
  rw [startsWith, List.isPrefixOf_iff_prefix]

@[simp] theorem startsWith_self (p : Path) : p.startsWith p = true :=
  startsWith_iff_segments.mpr (List.prefix_refl _)

theorem startsWith_trans {p q r : Path} (hpq : p.startsWith q) (hqr : q.startsWith r) :
    p.startsWith r :=
  startsWith_iff_segments.mpr
    ((startsWith_iff_segments.mp hqr).trans (startsWith_iff_segments.mp hpq))

theorem startsWith_antisymm {p q : Path} (hpq : p.startsWith q) (hqp : q.startsWith p) :
    p = q := by
  have h := startsWith_iff_segments.mp hpq
  exact Path.ext ((startsWith_iff_segments.mp hqp).eq_of_length_le h.length_le)

@[simp] theorem child_startsWith (p : Path) (name : String) : (p.child name).startsWith p = true :=
  startsWith_iff_segments.mpr (List.prefix_append _ _)

/-- Lying strictly below is starting with the path and differing from it. -/
theorem isAncestorOf_iff_ne {p q : Path} :
    p.isAncestorOf q = true ↔ q.startsWith p = true ∧ p ≠ q := by
  rw [isAncestorOf, Bool.and_eq_true, decide_eq_true_iff]
  constructor
  · rintro ⟨hlt, h⟩
    exact ⟨h, by rintro rfl; exact absurd hlt (lt_irrefl _)⟩
  · rintro ⟨h, hne⟩
    have hp := startsWith_iff_segments.mp h
    refine ⟨lt_of_le_of_ne hp.length_le fun he => hne ?_, h⟩
    exact Path.ext (hp.eq_of_length he)

/-- What lies at or below a child lies strictly below the parent. -/
theorem isAncestorOf_of_child {p q : Path} {name : String}
    (h : q.startsWith (p.child name) = true) : p.isAncestorOf q = true := by
  obtain ⟨r, rfl⟩ := (startsWith_iff _ _).mp h
  exact (isAncestorOf_iff _ _).mpr ⟨name, r.segments, by simp⟩

/-- Whether a path lies on the way from one path down to another, both included. -/
def isBetween (upper lower p : Path) : Bool :=
  p.startsWith upper && lower.startsWith p

theorem isBetween_iff {upper lower p : Path} :
    isBetween upper lower p = true ↔ p.startsWith upper = true ∧ lower.startsWith p = true := by
  simp [isBetween]

@[simp] theorem isBetween_self (upper p : Path) : isBetween upper upper p = decide (p = upper) := by
  rw [Bool.eq_iff_iff, isBetween_iff, decide_eq_true_iff]
  exact ⟨fun h => startsWith_antisymm h.1 h.2, by rintro rfl; simp⟩

/-- The way down to a column below a child consists of the parent and the way from the child. -/
theorem isBetween_of_child {upper lower : Path} {name : String}
    (h : lower.startsWith (upper.child name) = true) (p : Path) :
    isBetween upper lower p = (decide (p = upper) || isBetween (upper.child name) lower p) := by
  rw [Bool.eq_iff_iff, Bool.or_eq_true, isBetween_iff, isBetween_iff, decide_eq_true_iff]
  constructor
  · rintro ⟨hu, hl⟩
    rcases List.prefix_or_prefix_of_prefix (startsWith_iff_segments.mp hl)
      (startsWith_iff_segments.mp h) with hp | hp
    · rw [segments_child, List.prefix_concat_iff] at hp
      rcases hp with hp | hp
      · have he : p = upper.child name := Path.ext hp
        exact .inr ⟨by simp [he], hl⟩
      · exact .inl (startsWith_antisymm hu (startsWith_iff_segments.mpr hp))
    · exact .inr ⟨startsWith_iff_segments.mpr hp, hl⟩
  · rintro (rfl | ⟨hu, hl⟩)
    · exact ⟨startsWith_self p, startsWith_trans h (child_startsWith _ _)⟩
    · exact ⟨startsWith_trans hu (child_startsWith _ _), hl⟩

end Path

namespace Column

section constructors

variable (l : Label) (t : DataType) (cs : List Column)

@[simp] theorem label_value : (Column.value l t).label = l := rfl
@[simp] theorem label_group : (Column.group l cs).label = l := rfl
@[simp] theorem label_frame : (Column.frame l cs).label = l := rfl

@[simp] theorem path_value : (Column.value l t).path = l.path := rfl
@[simp] theorem path_group : (Column.group l cs).path = l.path := rfl
@[simp] theorem path_frame : (Column.frame l cs).path = l.path := rfl

@[simp] theorem name_value : (Column.value l t).name = l.name := rfl
@[simp] theorem name_group : (Column.group l cs).name = l.name := rfl
@[simp] theorem name_frame : (Column.frame l cs).name = l.name := rfl

@[simp] theorem isGroup_value : (Column.value l t).isGroup = false := rfl
@[simp] theorem isGroup_group : (Column.group l cs).isGroup = true := rfl
@[simp] theorem isGroup_frame : (Column.frame l cs).isGroup = false := rfl

@[simp] theorem children_value : (Column.value l t).children = [] := rfl
@[simp] theorem children_group : (Column.group l cs).children = cs := rfl
@[simp] theorem children_frame : (Column.frame l cs).children = [] := rfl

end constructors

theorem anchoredAll_iff {parent : Path} {cs : List Column} :
    AnchoredAll parent cs ↔ ∀ c ∈ cs, c.path = parent.child c.name ∧ c.Anchored := by
  induction cs with
  | nil => simp [AnchoredAll]
  | cons c rest ih => simp [AnchoredAll, ih, and_assoc]

theorem anchored_group {l : Label} {cs : List Column} :
    (Column.group l cs).Anchored ↔ ∀ c ∈ cs, c.path = l.path.child c.name ∧ c.Anchored := by
  rw [Anchored, anchoredAll_iff]

theorem Anchored.children {c : Column} (h : c.Anchored) :
    ∀ d ∈ c.children, d.path = c.path.child d.name ∧ d.Anchored := by
  cases c with
  | value l t => simp
  | frame l s => simp
  | group l cs => exact anchored_group.mp h

theorem self_mem_preorder (c : Column) : c ∈ c.preorder := by
  rw [preorder_eq]
  exact List.mem_cons_self

theorem mem_preorder_group {l : Label} {cs : List Column} {d : Column} :
    d ∈ (Column.group l cs).preorder ↔ d = .group l cs ∨ ∃ c ∈ cs, d ∈ c.preorder := by
  simp [preorder]

theorem mem_preorder_iff {c d : Column} :
    d ∈ c.preorder ↔ d = c ∨ d ∈ preorderAll c.children := by
  rw [preorder_eq, List.mem_cons]

theorem mem_preorderAll {cs : List Column} {d : Column} :
    d ∈ preorderAll cs ↔ ∃ c ∈ cs, d ∈ c.preorder := by
  simp

/-- A held column is anchored, and its path begins with that of the column holding it. -/
theorem Anchored.of_mem_preorder {c : Column} (h : c.Anchored) :
    ∀ d ∈ c.preorder, d.path.startsWith c.path = true ∧ d.Anchored := by
  induction c using Column.induct with
  | value l t => simp [preorder, h]
  | frame l s => simp [preorder, h]
  | group l cs ih =>
    intro d hd
    rcases mem_preorder_group.mp hd with rfl | ⟨c, hc, hd⟩
    · exact ⟨Path.startsWith_self _, h⟩
    · obtain ⟨hpath, hanch⟩ := anchored_group.mp h c hc
      obtain ⟨hdp, hda⟩ := ih c hc hanch d hd
      rw [hpath] at hdp
      exact ⟨Path.startsWith_trans hdp (Path.child_startsWith _ _), hda⟩

/-- What the children of an anchored column hold lies strictly below the column. -/
theorem Anchored.isAncestorOf_of_mem {c d : Column} (h : c.Anchored)
    (hd : d ∈ preorderAll c.children) : c.path.isAncestorOf d.path = true := by
  obtain ⟨b, hb, hd⟩ := mem_preorderAll.mp hd
  obtain ⟨hpath, hanch⟩ := h.children b hb
  have hdp := (hanch.of_mem_preorder d hd).1
  rw [hpath] at hdp
  exact Path.isAncestorOf_of_child hdp

/-- What a child of an anchored group holds lies strictly below the group. -/
theorem Anchored.isAncestorOf {l : Label} {cs : List Column} (h : (Column.group l cs).Anchored)
    {c d : Column} (hc : c ∈ cs) (hd : d ∈ c.preorder) : l.path.isAncestorOf d.path = true :=
  h.isAncestorOf_of_mem (mem_preorderAll.mpr ⟨c, hc, hd⟩)

/-- The value and frame columns that a column holds, itself included, in pre-order. -/
def leaves (c : Column) : List Column :=
  c.preorder.filter fun d => !d.isGroup

/-- The value and frame columns held by the columns of a list, in pre-order. -/
def leavesAll (cs : List Column) : List Column :=
  (preorderAll cs).filter fun d => !d.isGroup

@[simp] theorem leavesAll_nil : leavesAll [] = [] := rfl

theorem leavesAll_eq_flatMap (cs : List Column) : leavesAll cs = cs.flatMap leaves := by
  rw [leavesAll, preorderAll_eq_flatMap, List.filter_flatMap]
  rfl

theorem leaves_of_not_isGroup {c : Column} (h : c.isGroup = false) : c.leaves = [c] := by
  cases c with
  | value l t => rfl
  | frame l s => rfl
  | group l cs => cases h

@[simp] theorem leaves_group (l : Label) (cs : List Column) :
    (Column.group l cs).leaves = cs.flatMap leaves := by
  rw [leaves, preorder, List.filter_cons_of_neg (by simp [isGroup, kind]), ← leavesAll,
    leavesAll_eq_flatMap]

theorem mem_preorder_of_mem_leaves {c d : Column} (h : d ∈ c.leaves) : d ∈ c.preorder :=
  (List.mem_filter.mp h).1

end Column

end ColumnSelection
