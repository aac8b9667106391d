import ColumnSelection.Unicode.Casing

/-!
# Operations on character sets

Sets of characters as ranges of code points that are increasing and apart. Every operation brings
its result into this form, so that the complement can be read off the gaps.
-/
namespace ColumnSelection.Pattern

open Unicode (Ranges)

/-- The largest code point. -/
def maxPoint : Nat := 0x10FFFF

/-- Joins to the range from `lo` to `hi` what overlaps or touches it, and so on behind it, in a list
ordered by first points. -/
def joinFrom (lo hi : Nat) : Ranges → Ranges
  | [] => [(lo, hi)]
  | (lo', hi') :: rest =>
    if lo' ≤ hi + 1 then joinFrom lo (max hi hi') rest else (lo, hi) :: joinFrom lo' hi' rest

/-- Joins ranges that overlap or touch, in a list ordered by first points. -/
def joinRanges : Ranges → Ranges
  | [] => []
  | (lo, hi) :: rest => joinFrom lo hi rest

/-- The ranges of a list in increasing order and apart from each other. -/
def normalize (r : Ranges) : Ranges :=
  joinRanges (r.mergeSort fun a b => a.1 ≤ b.1)

/-- The points of either set. -/
def union (r s : Ranges) : Ranges :=
  normalize (r ++ s)

/-- The gaps between ranges, from a point on. -/
def gapsFrom (start : Nat) : Ranges → Ranges
  | [] => if start ≤ maxPoint then [(start, maxPoint)] else []
  | (lo, hi) :: rest =>
    if start < lo then (start, lo - 1) :: gapsFrom (hi + 1) rest else gapsFrom (hi + 1) rest

/-- All other points. -/
def complement (r : Ranges) : Ranges :=
  gapsFrom 0 (normalize r)

/-- The points of both sets. -/
def intersection (r s : Ranges) : Ranges :=
  complement (union (complement r) (complement s))

/-- The points of the first set that are not in the second. -/
def difference (r s : Ranges) : Ranges :=
  complement (union (complement r) s)

/-- The points of exactly one of two sets. -/
def symmetricDifference (r s : Ranges) : Ranges :=
  difference (union r s) (intersection r s)

/-- No range is empty. -/
def IsProper (r : Ranges) : Prop :=
  ∀ range ∈ r, range.1 ≤ range.2

/-- The first points are in increasing order. -/
def IsOrdered (r : Ranges) : Prop :=
  r.Pairwise fun a b => a.1 ≤ b.1

/-- No range is empty, and there is a gap between each and those behind it. -/
structure IsApart (r : Ranges) : Prop where
  isProper : IsProper r
  pairwise : r.Pairwise fun a b => a.2 + 1 < b.1

section sets

variable {lo hi start n : Nat} {r s : Ranges}

/-- A range that takes in the next one still comes first. -/
theorem IsOrdered.widen {range : Nat × Nat} (h : IsOrdered ((lo, hi) :: range :: r)) (hi' : Nat) :
    IsOrdered ((lo, hi') :: r) := by
  obtain ⟨hfirst, hrest⟩ := List.pairwise_cons.mp h
  exact List.pairwise_cons.mpr ⟨fun range hmem => hfirst range (List.mem_cons_of_mem _ hmem),
    (List.pairwise_cons.mp hrest).2⟩

theorem contains_joinFrom (h : IsOrdered ((lo, hi) :: r)) :
    (joinFrom lo hi r).contains n ↔ (lo ≤ n ∧ n ≤ hi) ∨ r.contains n := by
  induction r generalizing lo hi with
  | nil => exact Ranges.contains_cons
  | cons range rest ih =>
    obtain ⟨lo', hi'⟩ := range
    obtain ⟨hfirst, hrest⟩ := List.pairwise_cons.mp h
    have hle : lo ≤ lo' := hfirst _ List.mem_cons_self
    rw [joinFrom, Ranges.contains_cons]
    split
    · rw [ih (h.widen _), ← or_assoc]
      refine or_congr_left ?_
      omega
    · rw [Ranges.contains_cons, ih hrest]

/-- Joining goes on from the largest point so far, so that nothing behind a range lies in it. -/
theorem isApart_joinFrom (h : IsOrdered ((lo, hi) :: r)) (hproper : IsProper ((lo, hi) :: r)) :
    IsApart (joinFrom lo hi r) ∧ ∀ range ∈ joinFrom lo hi r, lo ≤ range.1 := by
  induction r generalizing lo hi with
  | nil =>
    have hbound : ∀ range ∈ joinFrom lo hi [], lo ≤ range.1 :=
      List.forall_mem_singleton.mpr (Nat.le_refl lo)
    exact ⟨⟨hproper, List.pairwise_singleton _ _⟩, hbound⟩
  | cons range rest ih =>
    obtain ⟨lo', hi'⟩ := range
    obtain ⟨hfirst, hrest⟩ := List.pairwise_cons.mp h
    have hle : lo ≤ lo' := hfirst _ List.mem_cons_self
    have hlohi : lo ≤ hi := hproper _ List.mem_cons_self
    have hbehind : IsProper ((lo', hi') :: rest) := (List.forall_mem_cons.mp hproper).2
    rw [joinFrom]
    split
    · refine ih (h.widen _) (List.forall_mem_cons.mpr ⟨?_, ?_⟩)
      · exact Nat.le_trans hlohi (Nat.le_max_left hi hi')
      · exact (List.forall_mem_cons.mp hbehind).2
    · obtain ⟨hapart, hbounds⟩ := ih hrest hbehind
      refine ⟨⟨?_, List.pairwise_cons.mpr ⟨fun range hmem => ?_, hapart.pairwise⟩⟩, ?_⟩
      · exact List.forall_mem_cons.mpr ⟨hlohi, hapart.isProper⟩
      · have := hbounds range hmem
        dsimp only
        omega
      · exact List.forall_mem_cons.mpr ⟨Nat.le_refl lo, fun range hmem =>
          Nat.le_trans hle (hbounds range hmem)⟩

theorem isOrdered_mergeSort (r : Ranges) : IsOrdered (r.mergeSort fun a b => a.1 ≤ b.1) := by
  have h : (r.mergeSort fun a b => decide (a.1 ≤ b.1)).Pairwise fun a b => decide (a.1 ≤ b.1) := by
    refine List.pairwise_mergeSort (fun a b c hab hbc => ?_) (fun a b => ?_) r
    · simp only [decide_eq_true_eq] at hab hbc ⊢
      exact Nat.le_trans hab hbc
    · simp only [Bool.or_eq_true, decide_eq_true_eq]
      exact Nat.le_total a.1 b.1
  exact h.imp of_decide_eq_true

theorem contains_normalize : (normalize r).contains n ↔ r.contains n := by
  have hsorted : Ranges.contains (r.mergeSort fun a b => a.1 ≤ b.1) n ↔ r.contains n :=
    Ranges.contains_congr fun _ => List.mem_mergeSort
  have hordered := isOrdered_mergeSort r
  rw [← hsorted, normalize]
  generalize r.mergeSort (fun a b => a.1 ≤ b.1) = sorted at hordered ⊢
  cases sorted with
  | nil => rfl
  | cons range rest => rw [joinRanges, contains_joinFrom hordered, Ranges.contains_cons]

theorem isApart_normalize (h : IsProper r) : IsApart (normalize r) := by
  have hordered := isOrdered_mergeSort r
  have hproper : IsProper (r.mergeSort fun a b => a.1 ≤ b.1) :=
    fun range hmem => h range (List.mem_mergeSort.mp hmem)
  rw [normalize]
  generalize r.mergeSort (fun a b => a.1 ≤ b.1) = sorted at hordered hproper ⊢
  cases sorted with
  | nil => exact ⟨hproper, .nil⟩
  | cons range rest => exact (isApart_joinFrom hordered hproper).1

theorem contains_union : (union r s).contains n ↔ r.contains n ∨ s.contains n := by
  rw [union, contains_normalize, Ranges.contains_append]

theorem isApart_union (hr : IsProper r) (hs : IsProper s) : IsApart (union r s) := by
  refine isApart_normalize fun range hmem => ?_
  exact (List.mem_append.mp hmem).elim (hr range) (hs range)

/-- The range between two gaps keeps these apart. -/
theorem isApart_gapsFrom (h : IsApart r) (hstart : ∀ range ∈ r, start ≤ range.1) :
    IsApart (gapsFrom start r) ∧ ∀ gap ∈ gapsFrom start r, start ≤ gap.1 := by
  induction r generalizing start with
  | nil =>
    rw [gapsFrom]
    split
    · refine ⟨⟨?_, List.pairwise_singleton _ _⟩, ?_⟩
      · exact List.forall_mem_singleton.mpr ‹start ≤ maxPoint›
      · exact List.forall_mem_singleton.mpr (Nat.le_refl start)
    · exact ⟨⟨List.forall_mem_nil _, .nil⟩, List.forall_mem_nil _⟩
  | cons range rest ih =>
    obtain ⟨lo, hi⟩ := range
    obtain ⟨hbehind, hpairwise⟩ := List.pairwise_cons.mp h.pairwise
    obtain ⟨hlohi, hproper⟩ := List.forall_mem_cons.mp h.isProper
    have hle : start ≤ lo := hstart _ List.mem_cons_self
    have hgap : ∀ range ∈ rest, hi + 1 ≤ range.1 := fun range hmem =>
      Nat.le_of_lt (hbehind range hmem)
    obtain ⟨hapart, hbounds⟩ := ih ⟨hproper, hpairwise⟩ hgap
    dsimp only at hlohi
    have hbound : ∀ gap ∈ gapsFrom (hi + 1) rest, start ≤ gap.1 := fun gap hmem =>
      Nat.le_trans (by omega) (hbounds gap hmem)
    rw [gapsFrom]
    split
    · refine ⟨⟨?_, List.pairwise_cons.mpr ⟨fun gap hmem => ?_, hapart.pairwise⟩⟩, ?_⟩
      · exact List.forall_mem_cons.mpr ⟨by dsimp only; omega, hapart.isProper⟩
      · have := hbounds gap hmem
        dsimp only
        omega
      · exact List.forall_mem_cons.mpr ⟨Nat.le_refl start, hbound⟩
    · exact ⟨hapart, hbound⟩

theorem contains_gapsFrom (h : IsApart r) (hstart : ∀ range ∈ r, start ≤ range.1)
    (hn : n ≤ maxPoint) : (gapsFrom start r).contains n ↔ start ≤ n ∧ ¬ r.contains n := by
  induction r generalizing start with
  | nil =>
    rw [gapsFrom]
    split
    · simp [Ranges.contains, hn]
    · simp [Ranges.contains]
      omega
  | cons range rest ih =>
    obtain ⟨lo, hi⟩ := range
    obtain ⟨hbehind, hpairwise⟩ := List.pairwise_cons.mp h.pairwise
    obtain ⟨hlohi, hproper⟩ := List.forall_mem_cons.mp h.isProper
    have hle : start ≤ lo := hstart _ List.mem_cons_self
    have hgap : ∀ range ∈ rest, hi + 1 ≤ range.1 := fun range hmem =>
      Nat.le_of_lt (hbehind range hmem)
    have hrest := ih ⟨hproper, hpairwise⟩ hgap
    -- A point up to the end of the first range lies in none of the others.
    have hfront : Ranges.contains rest n → hi < n := by
      intro hmem
      obtain ⟨range, hrange, hlo, -⟩ := Ranges.contains_iff.mp hmem
      exact Nat.le_trans (hgap range hrange) hlo
    rw [gapsFrom, Ranges.contains_cons]
    dsimp only at hlohi
    by_cases hmem : Ranges.contains rest n
    · have hlt := hfront hmem
      split
      · simp only [Ranges.contains_cons, hrest, hmem, not_true, and_false, or_false, or_true,
          iff_false]
        omega
      · simp only [hrest, hmem, not_true, and_false, or_true]
    · split
      · simp only [Ranges.contains_cons, hrest, hmem, Bool.false_eq_true, not_false_eq_true,
          and_true, or_false]
        omega
      · simp only [hrest, hmem, Bool.false_eq_true, not_false_eq_true, and_true, or_false]
        omega

theorem isApart_complement (h : IsProper r) : IsApart (complement r) :=
  (isApart_gapsFrom (isApart_normalize h) fun _ _ => Nat.zero_le _).1

theorem contains_complement (h : IsProper r) (hn : n ≤ maxPoint) :
    (complement r).contains n ↔ ¬ r.contains n := by
  rw [complement, contains_gapsFrom (isApart_normalize h) (fun _ _ => Nat.zero_le _) hn,
    contains_normalize]
  exact and_iff_right (Nat.zero_le n)

theorem isApart_intersection (hr : IsProper r) (hs : IsProper s) : IsApart (intersection r s) :=
  isApart_complement
    (isApart_union (isApart_complement hr).isProper (isApart_complement hs).isProper).isProper

theorem contains_intersection (hr : IsProper r) (hs : IsProper s) (hn : n ≤ maxPoint) :
    (intersection r s).contains n ↔ r.contains n ∧ s.contains n := by
  have hunion := isApart_union (isApart_complement hr).isProper (isApart_complement hs).isProper
  rw [intersection, contains_complement hunion.isProper hn, contains_union,
    contains_complement hr hn, contains_complement hs hn, not_or, Decidable.not_not,
    Decidable.not_not]

theorem isApart_difference (hr : IsProper r) (hs : IsProper s) : IsApart (difference r s) :=
  isApart_complement (isApart_union (isApart_complement hr).isProper hs).isProper

theorem contains_difference (hr : IsProper r) (hs : IsProper s) (hn : n ≤ maxPoint) :
    (difference r s).contains n ↔ r.contains n ∧ ¬ s.contains n := by
  have hunion := isApart_union (isApart_complement hr).isProper hs
  rw [difference, contains_complement hunion.isProper hn, contains_union,
    contains_complement hr hn, not_or, Decidable.not_not]

theorem isApart_symmetricDifference (hr : IsProper r) (hs : IsProper s) :
    IsApart (symmetricDifference r s) :=
  isApart_difference (isApart_union hr hs).isProper (isApart_intersection hr hs).isProper

theorem contains_symmetricDifference (hr : IsProper r) (hs : IsProper s) (hn : n ≤ maxPoint) :
    (symmetricDifference r s).contains n ↔
      (r.contains n ∧ ¬ s.contains n) ∨ (s.contains n ∧ ¬ r.contains n) := by
  rw [symmetricDifference, contains_difference (isApart_union hr hs).isProper
    (isApart_intersection hr hs).isProper hn, contains_union, contains_intersection hr hs hn]
  by_cases hmem : r.contains n <;> simp [hmem]

end sets

/-- Every folded character with its image. -/
def foldPairs : List (Nat × Nat) :=
  Unicode.foldTable.flatMap Unicode.Stretch.pairs

/-- The set with all characters added that differ from one of its own only in case. -/
def closeUnderCase (r : Ranges) : Ranges :=
  let images := foldPairs.filterMap fun (c, image) =>
    if r.contains c || r.contains image then some image else none
  let sources := foldPairs.filterMap fun (c, image) =>
    if images.contains image then some c else none
  union r ((images ++ sources).map fun c => (c, c))

/-- The set with the other case of its ASCII letters added. -/
def closeUnderAsciiCase (r : Ranges) : Ranges :=
  let letters := (List.range 26).filter fun i => r.contains (65 + i) || r.contains (97 + i)
  union r (letters.flatMap fun i => [(65 + i, 65 + i), (97 + i, 97 + i)])

/-- Whether all points are in ASCII. -/
def isAscii (r : Ranges) : Bool :=
  r.all fun (_, hi) => hi < 0x80

/-- The ranges between characters. -/
def ofCharRanges (r : List (Char × Char)) : Ranges :=
  r.map fun (a, b) => (a.toNat, b.toNat)

end ColumnSelection.Pattern
