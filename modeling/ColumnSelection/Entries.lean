/-!
# Ordered entries

A list of keyed values in which the place of a key is the place of its first writing and its
value that of the last. Objects of JSON text, projected rows and program variables are all kept
this way.
-/
namespace ColumnSelection.Entries

variable {α : Type u}

/-- The value of the first entry with this key. -/
def get? (key : String) : List (String × α) → Option α
  | [] => none
  | (k, v) :: rest => if k = key then some v else get? key rest

/-- Whether some entry has this key. -/
def contains (key : String) (entries : List (String × α)) : Bool :=
  (get? key entries).isSome

/-- Overwrites the value of a key in its place, or adds the key at the end. -/
def put (key : String) (value : α) : List (String × α) → List (String × α)
  | [] => [(key, value)]
  | (k, v) :: rest => if k = key then (k, value) :: rest else (k, v) :: put key value rest

/-- The entries without those of one key. -/
def erase (key : String) (entries : List (String × α)) : List (String × α) :=
  entries.filter fun (k, _) => k ≠ key

/-- The entries written one after the other. -/
def ofList (writes : List (String × α)) : List (String × α) :=
  writes.foldl (fun entries (k, v) => put k v entries) []

@[simp] theorem get?_put_self (key : String) (value : α) (entries : List (String × α)) :
    get? key (put key value entries) = some value := by
  induction entries with
  | nil => simp [put, get?]
  | cons e rest ih =>
    obtain ⟨k, v⟩ := e
    by_cases h : k = key <;> simp [put, get?, h, ih]

theorem get?_put_of_ne {key other : String} (h : other ≠ key) (value : α)
    (entries : List (String × α)) : get? other (put key value entries) = get? other entries := by
  induction entries with
  | nil => simp [put, get?, Ne.symm h]
  | cons e rest ih =>
    obtain ⟨k, v⟩ := e
    by_cases hk : k = key
    · have : ¬ key = other := fun e => h e.symm
      simp [put, get?, hk, this]
    · simp [put, get?, hk, ih]

/-- Writing keeps the keys in place and adds a new key at the end. -/
theorem keys_put (key : String) (value : α) (entries : List (String × α)) :
    (put key value entries).map Prod.fst =
      if key ∈ entries.map Prod.fst then entries.map Prod.fst
      else entries.map Prod.fst ++ [key] := by
  induction entries with
  | nil => simp [put]
  | cons e rest ih =>
    obtain ⟨k, v⟩ := e
    by_cases h : k = key
    · simp [put, h]
    · have h' : ¬ key = k := fun e => h e.symm
      simp only [put, h, if_false, List.map_cons, ih, List.mem_cons, h', false_or]
      split <;> simp

theorem get?_isSome_iff (key : String) (entries : List (String × α)) :
    (get? key entries).isSome ↔ key ∈ entries.map Prod.fst := by
  induction entries with
  | nil => simp [get?]
  | cons e rest ih =>
    obtain ⟨k, v⟩ := e
    by_cases h : k = key
    · simp [get?, h]
    · have h' : ¬ key = k := fun e => h e.symm
      simp [get?, h, h', ih]

@[simp] theorem contains_iff (key : String) (entries : List (String × α)) :
    contains key entries ↔ key ∈ entries.map Prod.fst :=
  get?_isSome_iff key entries

theorem nodup_keys_put (key : String) (value : α) {entries : List (String × α)}
    (h : (entries.map Prod.fst).Nodup) : ((put key value entries).map Prod.fst).Nodup := by
  rw [keys_put]
  split
  · exact h
  · rename_i hk
    refine List.nodup_append.mpr ⟨h, by simp, ?_⟩
    intro a ha b hb hab
    rw [List.mem_singleton] at hb
    exact hk (hb ▸ hab ▸ ha)

/-- However often a key is written, it stands once in the result. -/
theorem nodup_keys_ofList (writes : List (String × α)) :
    ((ofList writes).map Prod.fst).Nodup := by
  suffices h : ∀ entries : List (String × α), (entries.map Prod.fst).Nodup →
      ((writes.foldl (fun entries (k, v) => put k v entries) entries).map Prod.fst).Nodup from
    h [] (by simp)
  induction writes with
  | nil => exact fun _ h => h
  | cons e rest ih => exact fun entries h => ih _ (nodup_keys_put e.1 e.2 h)

theorem mem_put {key : String} {value : α} {entries : List (String × α)} {e : String × α}
    (h : e ∈ put key value entries) : e = (key, value) ∨ e ∈ entries := by
  induction entries with
  | nil => simpa [put] using h
  | cons first rest ih =>
    obtain ⟨k, v⟩ := first
    by_cases hk : k = key
    · simp only [put, hk, if_true, List.mem_cons] at h
      rcases h with h | h
      · exact .inl h
      · exact .inr (List.mem_cons_of_mem _ h)
    · simp only [put, hk, if_false, List.mem_cons] at h
      rcases h with h | h
      · exact .inr (h ▸ List.mem_cons_self)
      · exact (ih h).imp id (List.mem_cons_of_mem _)

theorem mem_ofList {writes : List (String × α)} {e : String × α} (h : e ∈ ofList writes) :
    e ∈ writes := by
  suffices hs : ∀ entries : List (String × α),
      e ∈ writes.foldl (fun entries (k, v) => put k v entries) entries →
        e ∈ writes ∨ e ∈ entries from
    (hs [] h).elim id fun h => absurd h (by simp)
  clear h
  induction writes with
  | nil => exact fun _ h => .inr h
  | cons w rest ih =>
    intro entries h
    rcases ih _ h with h | h
    · exact .inl (List.mem_cons_of_mem _ h)
    · rcases mem_put h with h | h
      · exact .inl (h ▸ List.mem_cons_self)
      · exact .inr h

end ColumnSelection.Entries
