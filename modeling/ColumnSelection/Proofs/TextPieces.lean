import ColumnSelection.Text.Pieces
import Mathlib.Algebra.Order.BigOperators.Group.List
import Mathlib.Algebra.Order.Ring.Nat
import Mathlib.Data.List.TakeWhile

/-!
# Cutting and joining

Cutting a text at every occurrence of a character and joining the pieces with that character undo
each other, provided that no piece holds it. The pieces of a text, one more character counted for
each, are one character longer than the text.
-/
namespace ColumnSelection.Text

section pieces

universe u

variable {α : Type u}

theorem pieces_eq_splitOnP (p : α → Bool) (s : List α) : pieces p s = s.splitOnP p := by
  induction s with
  | nil => rfl
  | cons c rest ih =>
    rw [pieces, List.splitOnP_cons_eq_if_modifyHead, ih]
    split_ifs
    · rfl
    · cases h : rest.splitOnP p with
      | nil => exact absurd h (List.splitOnP_ne_nil p rest)
      | cons piece more => rfl

theorem sum_length_pieces (p : α → Bool) (s : List α) :
    ((pieces p s).map fun piece => piece.length + 1).sum = s.length + 1 := by
  induction s with
  | nil => rfl
  | cons c rest ih =>
    rw [pieces]
    split_ifs
    · rw [List.map_cons, List.sum_cons, ih, List.length_cons, List.length_nil]
      omega
    · cases h : pieces p rest with
      | nil => exact absurd h (pieces_ne_nil p rest)
      | cons piece more =>
        rw [h, List.map_cons, List.sum_cons] at ih
        rw [List.map_cons, List.sum_cons, List.length_cons, List.length_cons]
        omega

/-- Leaving pieces out does not make the rest longer. -/
theorem sum_length_filter_pieces_le (p : α → Bool) (q : List α → Bool) (s : List α) :
    (((pieces p s).filter q).map fun piece => piece.length + 1).sum ≤ s.length + 1 := by
  rw [← sum_length_pieces p s]
  exact (List.filter_sublist.map _).sum_le_sum fun n _ => Nat.zero_le n

theorem not_of_mem_pieces {p : α → Bool} {s piece : List α} (h : piece ∈ pieces p s) :
    ∀ c ∈ piece, p c = false := by
  induction s generalizing piece with
  | nil =>
    rw [pieces, List.mem_singleton] at h
    simp [h]
  | cons d rest ih =>
    rw [pieces] at h
    split_ifs at h with hd
    · rcases List.mem_cons.mp h with rfl | h
      · simp
      · exact ih h
    · cases hrest : pieces p rest with
      | nil => exact absurd hrest (pieces_ne_nil p rest)
      | cons first more =>
        rw [hrest] at h
        rcases List.mem_cons.mp h with rfl | h
        · intro c hc
          rcases List.mem_cons.mp hc with rfl | hc
          · exact Bool.eq_false_iff.mpr hd
          · exact ih (hrest ▸ List.mem_cons_self) c hc
        · exact ih (hrest ▸ List.mem_cons_of_mem first h)

theorem pieces_eq_singleton {p : α → Bool} {s : List α} (h : ∀ c ∈ s, p c = false) :
    pieces p s = [s] := by
  induction s with
  | nil => rfl
  | cons c rest ih =>
    rw [List.forall_mem_cons] at h
    rw [pieces, ih h.2, h.1]
    rfl

theorem pieces_append_cons {p : α → Bool} {c : α} (hc : p c = true) (front back : List α) :
    pieces p (front ++ c :: back) = pieces p front ++ pieces p back := by
  simp only [pieces_eq_splitOnP, List.splitOnP_append_cons front back hc]

theorem pieces_concat {p : α → Bool} {c : α} (hc : p c = true) (s : List α) :
    pieces p (s ++ [c]) = pieces p s ++ [[]] :=
  pieces_append_cons hc s []

/-- What a text is not cut at stands in one of the pieces. -/
theorem exists_mem_pieces {p : α → Bool} {c : α} (hc : p c = false) {s : List α} (h : c ∈ s) :
    ∃ piece ∈ pieces p s, c ∈ piece := by
  induction s with
  | nil => cases h
  | cons d rest ih =>
    rw [pieces]
    split_ifs with hd
    · rcases List.mem_cons.mp h with rfl | h
      · rw [hc] at hd
        cases hd
      · obtain ⟨piece, hpiece, hmem⟩ := ih h
        exact ⟨piece, List.mem_cons_of_mem _ hpiece, hmem⟩
    · obtain ⟨first, more, hcons⟩ := List.exists_cons_of_ne_nil (pieces_ne_nil p rest)
      rw [hcons] at ih ⊢
      rcases List.mem_cons.mp h with rfl | h
      · exact ⟨c :: first, List.mem_cons_self, List.mem_cons_self⟩
      · obtain ⟨piece, hpiece, hmem⟩ := ih h
        rcases List.mem_cons.mp hpiece with rfl | hpiece
        · exact ⟨d :: piece, List.mem_cons_self, List.mem_cons_of_mem d hmem⟩
        · exact ⟨piece, List.mem_cons_of_mem _ hpiece, hmem⟩

end pieces

section split

variable {c : Char} {texts : List String}

theorem toList_join (separator : String) (texts : List String) :
    (join separator texts).toList = separator.toList.intercalate (texts.map String.toList) := by
  induction texts with
  | nil => rfl
  | cons s rest ih =>
    cases rest with
    | nil => rw [join, List.map_singleton, List.intercalate_singleton]
    | cons t more =>
      rw [join, String.toList_append, String.toList_append, ih]
      simp only [List.map_cons, List.intercalate_cons_cons]

theorem splitAt_eq_splitOn (c : Char) (s : String) :
    splitAt c s = (s.toList.splitOn c).map String.ofList := by
  rw [splitAt, pieces_eq_splitOnP, List.splitOn_eq_splitOnP]

theorem map_toList_splitAt (c : Char) (s : String) :
    (splitAt c s).map String.toList = pieces (· == c) s.toList := by
  rw [splitAt, List.map_map]
  simp [Function.comp_def]

theorem splitAt_append_singleton (c : Char) (s : String) :
    splitAt c (s ++ String.singleton c) = splitAt c s ++ [""] := by
  rw [splitAt, splitAt, String.toList_append, String.toList_singleton,
    pieces_concat (by simp), List.map_append]
  rfl

theorem splitAt_ne_nil (c : Char) (s : String) : splitAt c s ≠ [] := by
  rw [splitAt_eq_splitOn]
  exact fun h => List.splitOn_ne_nil c s.toList (List.map_eq_nil_iff.mp h)

theorem not_mem_of_mem_splitAt {s piece : String} (h : piece ∈ splitAt c s) :
    c ∉ piece.toList := by
  obtain ⟨chars, hchars, rfl⟩ := List.mem_map.mp h
  intro hc
  rw [String.toList_ofList] at hc
  simpa using not_of_mem_pieces hchars c hc

theorem splitAt_join (hne : texts ≠ []) (h : ∀ s ∈ texts, c ∉ s.toList) :
    splitAt c (join (String.singleton c) texts) = texts := by
  have hpieces : ∀ chars ∈ texts.map String.toList, c ∉ chars := by
    intro chars hchars
    obtain ⟨s, hs, rfl⟩ := List.mem_map.mp hchars
    exact h s hs
  have hne' : texts.map String.toList ≠ [] := fun hnil => hne (List.map_eq_nil_iff.mp hnil)
  rw [splitAt_eq_splitOn, toList_join, String.toList_singleton,
    List.splitOn_intercalate c hpieces hne', List.map_map]
  simp [Function.comp_def]

theorem splitOnce?_eq_none {s : List Char} (h : c ∉ s) : splitOnce? c s = none := by
  induction s with
  | nil => rfl
  | cons d rest ih =>
    rw [List.mem_cons, not_or] at h
    rw [splitOnce?, if_neg (by simpa using Ne.symm h.1), ih h.2]
    rfl

theorem splitOnce?_eq_none_iff {c : Char} {s : List Char} : splitOnce? c s = none ↔ c ∉ s := by
  refine ⟨fun h hmem => ?_, splitOnce?_eq_none⟩
  induction s with
  | nil => cases hmem
  | cons d rest ih =>
    rw [splitOnce?] at h
    split_ifs at h with hd
    have hne : c ≠ d := by
      rintro rfl
      simp at hd
    exact ih (Option.map_eq_none_iff.mp h) (List.mem_of_ne_of_mem hne hmem)

/-- A text is split at the first occurrence. -/
theorem splitOnce?_eq_some_iff {c : Char} {s front back : List Char} :
    splitOnce? c s = some (front, back) ↔ s = front ++ c :: back ∧ c ∉ front := by
  induction s generalizing front with
  | nil => simp [splitOnce?]
  | cons d rest ih =>
    rw [splitOnce?]
    split_ifs with h
    · obtain rfl := beq_iff_eq.mp h
      cases front <;> simp +contextual
    · have hne : d ≠ c := by simpa using h
      rw [Option.map_eq_some_iff]
      cases front with
      | nil => simp [hne]
      | cons e front =>
        have hsplit : (∃ parts, splitOnce? c rest = some parts ∧
            (d :: parts.1, parts.2) = (e :: front, back)) ↔
              d = e ∧ splitOnce? c rest = some (front, back) := by
          constructor
          · rintro ⟨⟨before, after⟩, hrest, ⟨⟩⟩
            exact ⟨rfl, hrest⟩
          · rintro ⟨rfl, hrest⟩
            exact ⟨_, hrest, rfl⟩
        rw [hsplit, ih, List.cons_append, List.cons.injEq, List.mem_cons, not_or, and_assoc]
        refine and_congr_right fun hde => and_congr_right fun _ => ?_
        exact (and_iff_right (hde ▸ hne.symm)).symm

end split

section trim

variable {p : Char → Bool} {s : List Char}

theorem length_trimBy_le (p : Char → Bool) (s : List Char) : (trimBy p s).length ≤ s.length := by
  rw [trimBy, trimEndBy, List.length_reverse]
  calc ((trimStartBy p s).reverse.dropWhile p).length
      ≤ (trimStartBy p s).reverse.length := List.length_dropWhile_le p _
    _ = (trimStartBy p s).length := List.length_reverse
    _ ≤ s.length := List.length_dropWhile_le p s

theorem dropWhile_eq_self_of_trimBy (h : trimBy p s = s) : s.dropWhile p = s := by
  refine (List.dropWhile_suffix p).sublist.eq_of_length_le ?_
  calc s.length
      = (trimBy p s).length := by rw [h]
    _ ≤ (s.dropWhile p).length := by
      rw [trimBy, trimEndBy, List.length_reverse, ← trimStartBy]
      exact (List.length_dropWhile_le p _).trans_eq List.length_reverse

/-- A text that begins and ends with characters that are to stay is left alone. -/
theorem trimBy_eq_self (hhead : ∀ c ∈ s.head?, p c = false)
    (hlast : ∀ c ∈ s.getLast?, p c = false) : trimBy p s = s := by
  have hkeep : ∀ t : List Char, (∀ c ∈ t.head?, p c = false) → t.dropWhile p = t := by
    intro t ht
    cases t with
    | nil => rfl
    | cons c rest => rw [List.dropWhile_cons_of_neg (by simp [ht c rfl])]
  rw [trimBy, trimEndBy, trimStartBy, hkeep s hhead, hkeep s.reverse, List.reverse_reverse]
  rwa [List.head?_reverse]

theorem trimBy_eq_self_of_forall (h : ∀ c ∈ s, p c = false) : trimBy p s = s :=
  trimBy_eq_self (fun c hc => h c (List.mem_of_mem_head? hc))
    fun c hc => h c (List.mem_of_getLast? hc)

theorem exists_trimBy_cons {c : Char} (hc : p c = false) (rest : List Char) :
    ∃ more, trimBy p (c :: rest) = c :: more := by
  rw [trimBy, trimStartBy, List.dropWhile_cons_of_neg (by simp [hc]), trimEndBy,
    List.reverse_cons, List.dropWhile_append]
  split_ifs with hempty
  · rw [List.dropWhile_cons_of_neg (by simp [hc])]
    exact ⟨[], rfl⟩
  · rw [List.reverse_append]
    exact ⟨_, rfl⟩

theorem exists_trimBy_of_dropWhile {c : Char} {rest : List Char} (h : s.dropWhile p = c :: rest) :
    p c = false ∧ ∃ more, trimBy p s = c :: more := by
  have hc : p c = false := by simpa [h] using List.head?_dropWhile_not p s
  have htrim : trimBy p s = trimBy p (c :: rest) := by
    rw [trimBy, trimBy, trimStartBy, trimStartBy, h, List.dropWhile_cons_of_neg (by simp [hc])]
  exact ⟨hc, htrim ▸ exists_trimBy_cons hc rest⟩

/-- What is left begins with a character that is to stay. -/
theorem head?_trimBy (p : Char → Bool) (s : List Char) :
    ∀ c ∈ (trimBy p s).head?, p c = false := by
  intro c hc
  cases hdrop : s.dropWhile p with
  | nil => simp [trimBy, trimStartBy, hdrop, trimEndBy] at hc
  | cons d rest =>
    obtain ⟨hd, more, hmore⟩ := exists_trimBy_of_dropWhile hdrop
    obtain rfl : d = c := by simpa [hmore] using hc
    exact hd

/-- What is left ends with a character that is to stay. -/
theorem getLast?_trimBy (p : Char → Bool) (s : List Char) :
    ∀ c ∈ (trimBy p s).getLast?, p c = false := by
  intro c hc
  rw [trimBy, trimEndBy, List.getLast?_reverse] at hc
  have hstop := List.head?_dropWhile_not p (trimStartBy p s).reverse
  rw [Option.mem_def.mp hc] at hstop
  exact hstop

/-- A text that is left alone ends with a character that is to stay. -/
theorem getLast?_of_trimBy (h : trimBy p s = s) : ∀ c ∈ s.getLast?, p c = false := by
  intro c hc
  rw [← h] at hc
  exact getLast?_trimBy p s c hc

theorem trimBy_subset (p : Char → Bool) (s : List Char) : trimBy p s ⊆ s := by
  intro c hc
  have hstart : c ∈ trimStartBy p s := by
    simpa using (List.dropWhile_suffix p).subset (List.mem_reverse.mp hc)
  exact (List.dropWhile_suffix p).subset hstart

theorem trimBy_eq_nil_iff : trimBy p s = [] ↔ ∀ c ∈ s, p c = true := by
  rw [← List.dropWhile_eq_nil_iff]
  cases hdrop : s.dropWhile p with
  | nil => simp [trimBy, trimStartBy, hdrop, trimEndBy]
  | cons d rest =>
    obtain ⟨-, more, hmore⟩ := exists_trimBy_of_dropWhile hdrop
    simp [hmore]

/-- A character at the end that is to go makes no difference. -/
theorem trimBy_concat {c : Char} (hc : p c = true) : trimBy p (s ++ [c]) = trimBy p s := by
  rw [trimBy, trimBy, trimStartBy, trimStartBy, List.dropWhile_append]
  split_ifs with h
  · rw [List.isEmpty_iff.mp h, List.dropWhile_cons_of_pos hc, List.dropWhile_nil]
  · rw [trimEndBy, trimEndBy, List.reverse_append, List.reverse_singleton, List.singleton_append,
      List.dropWhile_cons_of_pos hc]

end trim

end ColumnSelection.Text
