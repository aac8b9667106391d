import ColumnSelection.Selection.ColumnLists
import Mathlib.Data.List.DropRight

/-!
# Slices at the two ends of a list

What one slice takes and the opposite slice leaves make up the whole list, and a slice by a
predicate takes as much as it can. Slices of the back count columns from the last. Each of them
mirrors a slice of the front, so what holds at one end is carried over to the other.
-/
namespace ColumnSelection

/-- The longest front of a list all of whose columns satisfy a predicate. -/
structure IsLongestFront (p : Predicate) (front columns : List Column) : Prop where
  isFront : front <+: columns
  holds : ∀ c ∈ front, p.holds c = true
  longest : ∀ other, other <+: columns → (∀ c ∈ other, p.holds c = true) → other <+: front

/-- The longest back of a list all of whose columns satisfy a predicate. -/
structure IsLongestBack (p : Predicate) (back columns : List Column) : Prop where
  isBack : back <:+ columns
  holds : ∀ c ∈ back, p.holds c = true
  longest : ∀ other, other <:+ columns → (∀ c ∈ other, p.holds c = true) → other <:+ back

theorem IsLongestFront.reverse {p : Predicate} {front columns : List Column}
    (h : IsLongestFront p front columns) : IsLongestBack p front.reverse columns.reverse where
  isBack := List.reverse_suffix.mpr h.isFront
  holds c hc := h.holds c (List.mem_reverse.mp hc)
  longest other hother hholds := by
    rw [← List.reverse_prefix, List.reverse_reverse] at hother ⊢
    exact h.longest other.reverse hother fun c hc => hholds c (List.mem_reverse.mp hc)

namespace Slice

/-- The same slice at the other end of a list. -/
def mirror : Slice → Slice
  | .take n => .takeLast n
  | .takeLast n => .take n
  | .drop n => .dropLast n
  | .dropLast n => .drop n
  | .takeWhile p => .takeLastWhile p
  | .takeLastWhile p => .takeWhile p
  | .dropWhile p => .dropLastWhile p
  | .dropLastWhile p => .dropWhile p

section mirror

/-- The columns counted at the end are those that a reversed list begins with. -/
theorem takeWhile_reverse_eq_take (p : Predicate) (columns : List Column) :
    columns.reverse.takeWhile (fun c => p.holds c) = columns.reverse.take (trailing p columns) :=
  List.prefix_iff_eq_take.mp (List.takeWhile_prefix _)

theorem dropWhile_reverse_eq_drop (p : Predicate) (columns : List Column) :
    columns.reverse.dropWhile (fun c => p.holds c) = columns.reverse.drop (trailing p columns) := by
  have hcut : columns.reverse.takeWhile (fun c => p.holds c) ++
      columns.reverse.dropWhile (fun c => p.holds c) = columns.reverse :=
    List.takeWhile_append_dropWhile
  rw [takeWhile_reverse_eq_take] at hcut
  exact List.append_cancel_left (hcut.trans (List.take_append_drop _ columns.reverse).symm)

/-- A slice at one end is the slice at the other end of the reversed list. -/
theorem apply_mirror (part : Slice) (columns : List Column) :
    part.mirror.apply columns = (part.apply columns.reverse).reverse := by
  -- The two ends of the reversed list are exchanged, so a slice of the back is unfolded there. By a
  -- predicate it is the slice by the number of columns that satisfy the predicate.
  have htake : ∀ n cs, (takeLast n).apply cs = ((take n).apply cs.reverse).reverse :=
    fun n cs => List.rtake_eq_reverse_take_reverse cs n
  have hdrop : ∀ n cs, (dropLast n).apply cs = ((drop n).apply cs.reverse).reverse :=
    fun n cs => List.rdrop_eq_reverse_drop_reverse cs n
  have htakeWhile : ∀ p cs, (takeLastWhile p).apply cs = ((takeWhile p).apply cs.reverse).reverse :=
    fun p cs => (htake (trailing p cs) cs).trans
      (congrArg List.reverse (takeWhile_reverse_eq_take p cs).symm)
  have hdropWhile : ∀ p cs, (dropLastWhile p).apply cs = ((dropWhile p).apply cs.reverse).reverse :=
    fun p cs => (hdrop (trailing p cs) cs).trans
      (congrArg List.reverse (dropWhile_reverse_eq_drop p cs).symm)
  cases part with
  | take n => exact htake n columns
  | drop n => exact hdrop n columns
  | takeLast n => rw [htake, List.reverse_reverse, List.reverse_reverse, mirror]
  | dropLast n => rw [hdrop, List.reverse_reverse, List.reverse_reverse, mirror]
  | takeWhile p => exact htakeWhile p columns
  | dropWhile p => exact hdropWhile p columns
  | takeLastWhile p => rw [htakeWhile, List.reverse_reverse, List.reverse_reverse, mirror]
  | dropLastWhile p => rw [hdropWhile, List.reverse_reverse, List.reverse_reverse, mirror]

/-- Two slices that cut every list in two do so at the other end as well. -/
theorem append_mirror {part rest : Slice}
    (h : ∀ columns, part.apply columns ++ rest.apply columns = columns) (columns : List Column) :
    rest.mirror.apply columns ++ part.mirror.apply columns = columns := by
  rw [apply_mirror, apply_mirror, ← List.reverse_append, h, List.reverse_reverse]

end mirror

section halves

variable (p : Predicate) (n : Nat) (columns : List Column)

theorem take_append_drop : (take n).apply columns ++ (drop n).apply columns = columns :=
  List.take_append_drop n columns

theorem takeWhile_append_dropWhile :
    (takeWhile p).apply columns ++ (dropWhile p).apply columns = columns :=
  List.takeWhile_append_dropWhile

theorem dropLastWhile_append_takeLastWhile :
    (dropLastWhile p).apply columns ++ (takeLastWhile p).apply columns = columns :=
  append_mirror (takeWhile_append_dropWhile p) columns

theorem length_take : ((take n).apply columns).length = min n columns.length :=
  List.length_take

theorem length_takeLast : ((takeLast n).apply columns).length = min n columns.length := by
  have hmirror : (takeLast n).apply columns = ((take n).apply columns.reverse).reverse :=
    apply_mirror (take n) columns
  rw [hmirror, List.length_reverse, length_take, List.length_reverse]

theorem isLongestFront_takeWhile : IsLongestFront p ((takeWhile p).apply columns) columns where
  isFront := List.takeWhile_prefix _
  holds _ hc := List.mem_takeWhile_imp (p := fun c => p.holds c) hc
  longest := by
    rintro other ⟨rest, rfl⟩ hother
    rw [apply, List.takeWhile_append_of_pos hother]
    exact List.prefix_append other _

theorem isLongestBack_takeLastWhile :
    IsLongestBack p ((takeLastWhile p).apply columns) columns := by
  have hmirror : (takeLastWhile p).apply columns = ((takeWhile p).apply columns.reverse).reverse :=
    apply_mirror (takeWhile p) columns
  have h := (isLongestFront_takeWhile p columns.reverse).reverse
  rwa [List.reverse_reverse, ← hmirror] at h

theorem trailing_le_length : trailing p columns ≤ columns.length :=
  calc trailing p columns
      ≤ columns.reverse.length := (List.takeWhile_sublist _).length_le
    _ = columns.length := List.length_reverse

end halves

/-- The eight slices come in pairs that cut every list in two, wherever the count lies. Taking by a
count stops at the end of the list, taking by a predicate goes on as long as it can, and at the back
the cut is where the columns that satisfy the predicate begin. The slices of the back are those of
the front on the reversed list, reversed. -/
theorem apply_partition_mirror (columns : List Column) (n : Nat) (p : Predicate) :
    ((take n).apply columns ++ (drop n).apply columns = columns ∧
      (dropLast n).apply columns ++ (takeLast n).apply columns = columns ∧
      (takeWhile p).apply columns ++ (dropWhile p).apply columns = columns ∧
      (dropLastWhile p).apply columns ++ (takeLastWhile p).apply columns = columns) ∧
    (((take n).apply columns).length = min n columns.length ∧
      ((takeLast n).apply columns).length = min n columns.length) ∧
    (IsLongestFront p ((takeWhile p).apply columns) columns ∧
      IsLongestBack p ((takeLastWhile p).apply columns) columns) ∧
    (trailing p columns ≤ columns.length ∧
      (takeLastWhile p).apply columns = columns.drop (columns.length - trailing p columns) ∧
      (dropLastWhile p).apply columns = columns.take (columns.length - trailing p columns)) ∧
    ∀ part : Slice, part.mirror.apply columns = (part.apply columns.reverse).reverse := by
  have hcounted : (dropLast n).apply columns ++ (takeLast n).apply columns = columns :=
    append_mirror (take_append_drop n) columns
  refine ⟨⟨take_append_drop n columns, hcounted, ?_, ?_⟩, ?_, ?_, ?_, ?_⟩
  · exact takeWhile_append_dropWhile p columns
  · exact dropLastWhile_append_takeLastWhile p columns
  · exact ⟨length_take n columns, length_takeLast n columns⟩
  · exact ⟨isLongestFront_takeWhile p columns, isLongestBack_takeLastWhile p columns⟩
  · exact ⟨trailing_le_length p columns, rfl, rfl⟩
  · intro part
    exact apply_mirror part columns

/-- A column in the middle that fails the predicate ends the slices of both ends. -/
example :
    let k := Column.topValue "k" ⟨.int, false⟩
    let g := Column.topGroup "g" [k]
    let p := Predicate.kindIn [.value]
    (takeWhile p).apply [k, g, k, k] = [k] ∧ (takeLastWhile p).apply [k, g, k, k] = [k, k] ∧
      (dropLast (2 ^ 64 - 1)).apply [k, g, k, k] = [] := by
  exact ⟨rfl, rfl, rfl⟩

end Slice

end ColumnSelection
