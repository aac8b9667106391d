import ColumnSelection.Json.Reader
import Mathlib.Algebra.Order.BigOperators.Group.List
import Mathlib.Algebra.Order.Ring.Nat
import Mathlib.Data.List.TakeWhile

/-!
# Sizes of values

The size of a value counts the values in it and the characters of its strings, keys left out. A
value read from a text is no larger than the text is long.
-/
namespace ColumnSelection.Json

mutual

/-- The number of values and of characters in strings; keys do not count. -/
def size : Json → Nat
  | .arr items => 1 + sizeItems items
  | .obj fields => 1 + sizeFields fields
  | .str s => 1 + s.length
  | .null | .bool _ | .int _ | .float _ => 1
termination_by structural j => j

@[inherit_doc size]
def sizeItems : List Json → Nat
  | [] => 0
  | j :: rest => size j + sizeItems rest
termination_by structural items => items

@[inherit_doc size]
def sizeFields : List (String × Json) → Nat
  | [] => 0
  | (_, j) :: rest => size j + sizeFields rest
termination_by structural fields => fields

end

@[simp] theorem size_str (s : String) : (Json.str s).size = 1 + s.length := rfl

@[simp] theorem size_arr (items : List Json) : (Json.arr items).size = 1 + sizeItems items := rfl

@[simp] theorem size_obj (fields : List (String × Json)) :
    (Json.obj fields).size = 1 + sizeFields fields := rfl

theorem sizeItems_eq_sum (items : List Json) : sizeItems items = (items.map size).sum := by
  induction items with
  | nil => rfl
  | cons j rest ih => rw [sizeItems, ih, List.map_cons, List.sum_cons]

theorem sizeItems_append (items more : List Json) :
    sizeItems (items ++ more) = sizeItems items + sizeItems more := by
  rw [sizeItems_eq_sum, sizeItems_eq_sum, sizeItems_eq_sum, List.map_append, List.sum_append]

mutual

theorem size_le_weight : ∀ j : Json, j.size ≤ j.weight
  | .arr items => Nat.add_le_add_left (sizeItems_le_weightItems items) 1
  | .obj fields => Nat.add_le_add_left (sizeFields_le_weightFields fields) 1
  | .str _ => le_rfl
  | .null => le_rfl
  | .bool _ => le_rfl
  | .int _ => le_rfl
  | .float _ => le_rfl
termination_by structural j => j

theorem sizeItems_le_weightItems : ∀ items : List Json, sizeItems items ≤ weightItems items
  | [] => le_rfl
  | j :: rest => Nat.add_le_add (size_le_weight j) (sizeItems_le_weightItems rest)
termination_by structural items => items

theorem sizeFields_le_weightFields :
    ∀ fields : List (String × Json), sizeFields fields ≤ weightFields fields
  | [] => le_rfl
  | (k, j) :: rest => by
    have hj := size_le_weight j
    have hrest := sizeFields_le_weightFields rest
    rw [sizeFields, weightFields]
    omega
termination_by structural fields => fields

end

section entries

variable {key : String} {j : Json} {fields : List (String × Json)}

theorem size_le_sizeFields (h : Entries.get? key fields = some j) : j.size ≤ sizeFields fields := by
  induction fields with
  | nil => cases h
  | cons e rest ih =>
    rw [Entries.get?] at h
    rw [sizeFields]
    split_ifs at h
    · cases h
      exact Nat.le_add_right _ _
    · exact (ih h).trans (Nat.le_add_left _ _)

/-- What stands under a key is smaller than the object. -/
theorem size_lt_of_get? {config : Json} (h : config.get? key = some j) : j.size < config.size := by
  cases config with
  | obj fields =>
    have hle := size_le_sizeFields h
    rw [size_obj]
    omega
  | _ => cases h

theorem sizeFields_put_le (key : String) (j : Json) (fields : List (String × Json)) :
    sizeFields (Entries.put key j fields) ≤ sizeFields fields + j.size := by
  induction fields with
  | nil => simp [Entries.put, sizeFields]
  | cons e rest ih =>
    rw [Entries.put]
    split_ifs
    · simp only [sizeFields]
      omega
    · simp only [sizeFields]
      omega

theorem sizeFields_ofList_le (writes : List (String × Json)) :
    sizeFields (Entries.ofList writes) ≤ sizeFields writes := by
  suffices h : ∀ fields : List (String × Json),
      sizeFields (writes.foldl (fun entries e => Entries.put e.1 e.2 entries) fields) ≤
        sizeFields fields + sizeFields writes from
    (h []).trans (Nat.zero_add _).le
  induction writes with
  | nil => exact fun _ => le_rfl
  | cons e rest ih =>
    obtain ⟨k, j⟩ := e
    intro fields
    have hput := sizeFields_put_le k j fields
    have hrest := ih (Entries.put k j fields)
    rw [sizeFields]
    refine hrest.trans ?_
    omega

end entries

mutual

/-- Merging entries drops values and adds none. -/
theorem size_merge_le : ∀ j : Json, j.merge.size ≤ j.size
  | .arr items => Nat.add_le_add_left (sizeItems_mergeItems_le items) 1
  | .obj fields => by
    have hwrites := sizeFields_ofList_le (mergeFields fields)
    have hfields := sizeFields_mergeFields_le fields
    rw [merge, size_obj, size_obj]
    omega
  | .str _ => le_rfl
  | .null => le_rfl
  | .bool _ => le_rfl
  | .int _ => le_rfl
  | .float _ => le_rfl
termination_by structural j => j

theorem sizeItems_mergeItems_le : ∀ items : List Json, sizeItems (mergeItems items) ≤ sizeItems items
  | [] => le_rfl
  | j :: rest => Nat.add_le_add (size_merge_le j) (sizeItems_mergeItems_le rest)
termination_by structural items => items

theorem sizeFields_mergeFields_le :
    ∀ fields : List (String × Json), sizeFields (mergeFields fields) ≤ sizeFields fields
  | [] => le_rfl
  | (_, j) :: rest => Nat.add_le_add (size_merge_le j) (sizeFields_mergeFields_le rest)
termination_by structural fields => fields

end

section strings

variable {s rest : List Char}

/-- Every part of a string takes at least one character, and the closing mark takes one. -/
theorem length_stringParts? {parts : List StringPart} (h : stringParts? s = some (parts, rest)) :
    parts.length + rest.length < s.length := by
  fun_induction stringParts? s generalizing parts rest with
  | case1 | case3 | case5 | case7 => cases h
  | case2 tail =>
    cases h
    simp
  | case4 h₁ h₂ h₃ h₄ tail _ ih =>
    simp only [Option.bind_eq_bind, Option.bind_eq_some_iff] at h
    obtain ⟨n, -, ⟨more, after⟩, hmore, h⟩ := h
    cases h
    have hlength := ih hmore
    simp only [List.length_cons]
    omega
  | case6 e tail _ _ ih =>
    simp only [Option.bind_eq_bind, Option.bind_eq_some_iff] at h
    obtain ⟨d, -, ⟨more, after⟩, hmore, h⟩ := h
    cases h
    have hlength := ih hmore
    simp only [List.length_cons]
    omega
  | case8 c tail _ _ _ ih =>
    simp only [Option.bind_eq_bind, Option.bind_eq_some_iff] at h
    obtain ⟨⟨more, after⟩, hmore, h⟩ := h
    cases h
    have hlength := ih hmore
    simp only [List.length_cons]
    omega

theorem length_assemble? {parts : List StringPart} {chars : List Char}
    (h : assemble? parts = some chars) : chars.length ≤ parts.length := by
  fun_induction assemble? parts generalizing chars with
  | case1 =>
    cases h
    exact le_rfl
  | case2 _ _ ih | case3 _ _ _ ih =>
    obtain ⟨more, hmore, rfl⟩ := Option.map_eq_some_iff.mp h
    exact Nat.succ_le_succ (ih hmore)
  | case5 _ _ _ _ _ _ ih =>
    obtain ⟨more, hmore, rfl⟩ := Option.map_eq_some_iff.mp h
    exact (Nat.succ_le_succ (ih hmore)).trans (Nat.le_succ _)
  | case4 | case6 | case7 => cases h

theorem size_readString? {text : String} (h : readString? s = some (text, rest)) :
    (Json.str text).size + rest.length ≤ s.length := by
  rw [readString?] at h
  simp only [Option.bind_eq_bind, Option.bind_eq_some_iff] at h
  obtain ⟨⟨parts, after⟩, hparts, chars, hchars, h⟩ := h
  cases h
  have hread := length_stringParts? hparts
  have hassemble : chars.length ≤ parts.length := length_assemble? hchars
  rw [size_str, String.length_ofList]
  change 1 + chars.length + after.length ≤ s.length
  omega

end strings

section numbers

variable {j : Json} {s rest : List Char} {negative : Bool}

theorem size_of_bind {value? : Option Json} {after : List Char}
    (hvalue : ∀ value, value? = some value → value.size = 1)
    (h : (value?.bind fun value => some (value, after)) = some (j, rest)) :
    j.size = 1 ∧ rest = after := by
  obtain ⟨value, hsome, h⟩ := Option.bind_eq_some_iff.mp h
  cases h
  exact ⟨hvalue _ hsome, rfl⟩

theorem size_scaled? {significand : Nat} {exponent : Int}
    (h : scaled? negative significand exponent = some j) : j.size = 1 := by
  have hfloat : ∀ y? : Option Numeric.Binary64,
      (y?.bind fun y => some (.float (y.withSign negative))) = some j → j.size = 1 := by
    intro y? hy
    obtain ⟨y, -, hy⟩ := Option.bind_eq_some_iff.mp hy
    cases hy
    rfl
  rw [scaled?] at h
  obtain ⟨x, -, h⟩ := Option.bind_eq_some_iff.mp h
  dsimp only at h
  split_ifs at h
  · exact hfloat _ h
  · exact hfloat _ h
  · obtain ⟨power, -, h⟩ := Option.bind_eq_some_iff.mp h
    exact hfloat _ h
  · exact hfloat none h

theorem size_wholeNumber? {significand dropped : Nat}
    (h : wholeNumber? negative significand dropped = some j) : j.size = 1 := by
  rw [wholeNumber?] at h
  split_ifs at h
  · exact size_scaled? h
  · cases h
    rfl
  · exact size_scaled? h
  · cases h
    rfl

theorem size_readExponent? {significand : Nat} {shift : Int}
    (h : readExponent? negative significand shift s = some (j, rest)) :
    j.size = 1 ∧ rest.length ≤ s.length := by
  have hsign : (Numeric.splitSign s).2.length ≤ s.length := by
    unfold Numeric.splitSign
    split <;> simp
  rw [readExponent?] at h
  generalize Numeric.splitSign s = signed at h hsign
  obtain ⟨down, digits⟩ := signed
  have hdigits : (digits.dropWhile Char.isDigit).length ≤ s.length :=
    (List.length_dropWhile_le _ _).trans hsign
  obtain ⟨n, -, h⟩ := Option.bind_eq_some_iff.mp h
  dsimp only at h
  have hvalue : j.size = 1 ∧ rest = digits.dropWhile Char.isDigit := by
    split at h
    · exact size_of_bind (fun value => size_scaled?) h
    · split at h
      · cases h
      · refine size_of_bind (fun value hsome => ?_) h
        rw [← Option.some.inj hsome]
        rfl
  exact ⟨hvalue.1, hvalue.2 ▸ hdigits⟩

/-- A number is one value and takes at least one digit. -/
theorem size_readNumber? (h : readNumber? s = some (j, rest)) :
    j.size + rest.length ≤ s.length := by
  unfold readNumber? at h
  split at h
  rename_i negative body hsign
  have hbody : body.length ≤ s.length := by
    split at hsign <;> cases hsign
    · exact Nat.le_succ _
    · exact le_rfl
  dsimp only at h
  split at h
  · cases h
  rename_i hwhole
  -- The digits before a point are there, so what follows them is shorter than the number.
  have hafter : (body.dropWhile Char.isDigit).length < body.length := by
    have hlength := congrArg List.length
      (List.takeWhile_append_dropWhile (p := Char.isDigit) (l := body))
    have hpos : (body.takeWhile Char.isDigit).length ≠ 0 := by
      intro hzero
      exact hwhole (by simp [List.length_eq_zero_iff.mp hzero])
    rw [List.length_append] at hlength
    omega
  have hparts : j.size = 1 ∧ rest.length ≤ (body.dropWhile Char.isDigit).length := by
    split at h
    · rename_i tail hdot
      have htail := List.length_dropWhile_le Char.isDigit tail
      rw [hdot, List.length_cons]
      split at h
      · cases h
      split at h
      · rename_i c more hexp
        have hmore := congrArg List.length hexp
        rw [List.length_cons] at hmore
        split at h
        · obtain ⟨hsize, hrest⟩ := size_readExponent? h
          exact ⟨hsize, by omega⟩
        · obtain ⟨hsize, rfl⟩ := size_of_bind (fun value => size_scaled?) h
          exact ⟨hsize, by omega⟩
      · obtain ⟨hsize, rfl⟩ := size_of_bind (fun value => size_scaled?) h
        exact ⟨hsize, by omega⟩
    · rename_i c tail _ hexp
      split at h
      · obtain ⟨hsize, hrest⟩ := size_readExponent? h
        rw [hexp, List.length_cons]
        exact ⟨hsize, by omega⟩
      · obtain ⟨hsize, rfl⟩ := size_of_bind (fun value => size_wholeNumber?) h
        exact ⟨hsize, le_rfl⟩
    · obtain ⟨hsize, rfl⟩ := size_of_bind (fun value => size_wholeNumber?) h
      exact ⟨hsize, le_rfl⟩
  omega

end numbers

section reading

variable {j : Json} {s rest : List Char}

theorem length_of_afterWord? {word : List Char} (h : afterWord? word s = some rest) :
    rest.length ≤ s.length := by
  induction word generalizing s with
  | nil =>
    cases h
    exact le_rfl
  | cons w word ih =>
    cases s with
    | nil => cases h
    | cons c s =>
      rw [afterWord?] at h
      split_ifs at h
      exact (ih h).trans (Nat.le_succ _)

theorem size_readScalar? (h : readScalar? s = some (j, rest)) :
    j.size + rest.length ≤ s.length := by
  cases s with
  | nil => cases h
  | cons c tail =>
    have hword : ∀ {word : List Char} {value : Json}, value.size = 1 →
        ((afterWord? word tail).map fun after => (value, after)) = some (j, rest) →
          j.size + rest.length ≤ (c :: tail).length := by
      intro word value hvalue h
      obtain ⟨after, hafter, h⟩ := Option.map_eq_some_iff.mp h
      cases h
      have hlength := length_of_afterWord? hafter
      rw [hvalue, List.length_cons]
      omega
    rw [readScalar?] at h
    split_ifs at h
    · obtain ⟨⟨text, after⟩, hread, h⟩ := Option.map_eq_some_iff.mp h
      cases h
      exact (size_readString? hread).trans (Nat.le_succ _)
    · exact hword rfl h
    · exact hword rfl h
    · exact hword rfl h
    · exact size_readNumber? h

theorem length_skipSpace_le (s : List Char) : (skipSpace s).length ≤ s.length :=
  List.length_dropWhile_le _ _

mutual

theorem size_readValue? : ∀ (fuel : Nat) {depth : Nat} {s rest : List Char} {j : Json},
    readValue? fuel depth s = some (j, rest) → j.size + rest.length ≤ s.length
  | 0, _, _, _, _, h => by cases h
  | fuel + 1, depth, s, rest, j, h => by
    have hskip := length_skipSpace_le s
    rw [readValue?] at h
    split at h
    · rename_i tail hopen
      have htail := length_skipSpace_le tail
      rw [hopen, List.length_cons] at hskip
      split at h
      · cases h
      · rename_i after hclose
        cases h
        rw [hclose, List.length_cons] at htail
        change 1 + 0 + rest.length ≤ s.length
        omega
      · obtain ⟨⟨items, after⟩, hitems, h⟩ := Option.bind_eq_some_iff.mp h
        cases h
        have hlength := size_readItems? fuel hitems
        rw [size_arr]
        omega
    · rename_i tail hopen
      have htail := length_skipSpace_le tail
      rw [hopen, List.length_cons] at hskip
      split at h
      · cases h
      · rename_i after hclose
        cases h
        rw [hclose, List.length_cons] at htail
        change 1 + 0 + rest.length ≤ s.length
        omega
      · obtain ⟨⟨fields, after⟩, hfields, h⟩ := Option.bind_eq_some_iff.mp h
        cases h
        have hlength := size_readFields? fuel hfields
        rw [size_obj]
        omega
    · exact (size_readScalar? h).trans hskip
termination_by structural fuel => fuel

/-- The closing bracket takes a character more. -/
theorem size_readItems? : ∀ (fuel : Nat) {depth : Nat} {s rest : List Char} {items : List Json},
    readItems? fuel depth s = some (items, rest) → sizeItems items + rest.length < s.length
  | 0, _, _, _, _, h => by cases h
  | fuel + 1, depth, s, rest, items, h => by
    rw [readItems?] at h
    obtain ⟨⟨item, tail⟩, hitem, h⟩ := Option.bind_eq_some_iff.mp h
    have hsize := size_readValue? fuel hitem
    have hskip := length_skipSpace_le tail
    dsimp only at h
    split at h
    · rename_i more hcomma
      obtain ⟨⟨others, after⟩, hothers, h⟩ := Option.bind_eq_some_iff.mp h
      cases h
      have hmore := size_readItems? fuel hothers
      rw [hcomma, List.length_cons] at hskip
      change item.size + sizeItems others + after.length < s.length
      omega
    · rename_i after hclose
      cases h
      rw [hclose, List.length_cons] at hskip
      change item.size + 0 + rest.length < s.length
      omega
    · cases h
termination_by structural fuel => fuel

@[inherit_doc size_readItems?]
theorem size_readFields? :
    ∀ (fuel : Nat) {depth : Nat} {s rest : List Char} {fields : List (String × Json)},
      readFields? fuel depth s = some (fields, rest) → sizeFields fields + rest.length < s.length
  | 0, _, _, _, _, h => by cases h
  | fuel + 1, depth, s, rest, fields, h => by
    have hopen := length_skipSpace_le s
    rw [readFields?] at h
    split at h
    · rename_i tail hquote
      rw [hquote, List.length_cons] at hopen
      obtain ⟨⟨key, tail'⟩, hkey, h⟩ := Option.bind_eq_some_iff.mp h
      have hkeysize := size_readString? hkey
      have hcolon := length_skipSpace_le tail'
      dsimp only at h
      split at h
      · rename_i text hsep
        rw [hsep, List.length_cons] at hcolon
        obtain ⟨⟨value, text'⟩, hvalue, h⟩ := Option.bind_eq_some_iff.mp h
        have hsize := size_readValue? fuel hvalue
        have hskip := length_skipSpace_le text'
        dsimp only at h
        split at h
        · rename_i more hcomma
          obtain ⟨⟨others, after⟩, hothers, h⟩ := Option.bind_eq_some_iff.mp h
          cases h
          have hmore := size_readFields? fuel hothers
          rw [hcomma, List.length_cons] at hskip
          change value.size + sizeFields others + after.length < s.length
          omega
        · rename_i after hclose
          cases h
          rw [hclose, List.length_cons] at hskip
          change value.size + 0 + rest.length < s.length
          omega
        · cases h
      · cases h
    · cases h
termination_by structural fuel => fuel

end

/-- A value read from a text is no larger than the text is long. -/
theorem size_le_of_parse? {text : String} (h : parse? text = some j) : j.size ≤ text.length := by
  obtain ⟨value, hread, rfl⟩ := Option.map_eq_some_iff.mp h
  rw [read?] at hread
  obtain ⟨⟨value', after⟩, hvalue, hread⟩ := Option.bind_eq_some_iff.mp hread
  dsimp only at hread
  split_ifs at hread
  cases hread
  have hsize := size_readValue? _ hvalue
  rw [String.length_toList] at hsize
  exact (size_merge_le _).trans ((Nat.le_add_right _ _).trans hsize)

end reading

end ColumnSelection.Json
