import ColumnSelection.Proofs.Projection
import ColumnSelection.Proofs.ValueEquality
import ColumnSelection.Yaml.Document
import Mathlib.Algebra.Order.Ring.Nat

/-!
# JSON values by way of YAML

A JSON value written as a YAML value and read back is the same in all but its largest whole numbers:
those beyond the signed 64-bit range come back as the nearest floats. All else, and the order of
entries, is kept at every depth.
-/
namespace ColumnSelection

namespace Json

mutual

/-- The whole numbers in a value, at every depth. -/
def ints : Json → List Int
  | .int n => [n]
  | .arr items => intsOfItems items
  | .obj fields => intsOfFields fields
  | .null | .bool _ | .float _ | .str _ => []
termination_by structural j => j

@[inherit_doc ints]
def intsOfItems : List Json → List Int
  | [] => []
  | j :: rest => ints j ++ intsOfItems rest
termination_by structural items => items

@[inherit_doc ints]
def intsOfFields : List (String × Json) → List Int
  | [] => []
  | (_, j) :: rest => ints j ++ intsOfFields rest
termination_by structural fields => fields

end

mutual

/-- The value with other values in the places of its whole numbers. -/
def mapInts (f : Int → Json) : Json → Json
  | .int n => f n
  | .arr items => .arr (mapIntsOfItems f items)
  | .obj fields => .obj (mapIntsOfFields f fields)
  | .null => .null
  | .bool b => .bool b
  | .float x => .float x
  | .str s => .str s
termination_by structural j => j

@[inherit_doc mapInts]
def mapIntsOfItems (f : Int → Json) : List Json → List Json
  | [] => []
  | j :: rest => mapInts f j :: mapIntsOfItems f rest
termination_by structural items => items

@[inherit_doc mapInts]
def mapIntsOfFields (f : Int → Json) : List (String × Json) → List (String × Json)
  | [] => []
  | (k, j) :: rest => (k, mapInts f j) :: mapIntsOfFields f rest
termination_by structural fields => fields

end

theorem keys_mapIntsOfFields (f : Int → Json) (fields : List (String × Json)) :
    (mapIntsOfFields f fields).map Prod.fst = fields.map Prod.fst := by
  induction fields with
  | nil => rfl
  | cons e rest ih => rw [mapIntsOfFields, List.map_cons, List.map_cons, ih]

section unchanged

variable {f : Int → Json}

mutual

/-- A value is left as it is exactly when every whole number in it is. -/
theorem mapInts_eq_self_iff : ∀ v : Json, mapInts f v = v ↔ ∀ n ∈ v.ints, f n = .int n
  | .int n => by simp [mapInts, ints]
  | .arr items => by simp [mapInts, ints, mapIntsOfItems_eq_self_iff items]
  | .obj fields => by simp [mapInts, ints, mapIntsOfFields_eq_self_iff fields]
  | .null => by simp [mapInts, ints]
  | .bool _ => by simp [mapInts, ints]
  | .float _ => by simp [mapInts, ints]
  | .str _ => by simp [mapInts, ints]
termination_by structural v => v

theorem mapIntsOfItems_eq_self_iff : ∀ items : List Json,
    mapIntsOfItems f items = items ↔ ∀ n ∈ intsOfItems items, f n = .int n
  | [] => by simp [mapIntsOfItems, intsOfItems]
  | j :: rest => by
    rw [mapIntsOfItems, intsOfItems, List.cons.injEq, mapInts_eq_self_iff j,
      mapIntsOfItems_eq_self_iff rest, List.forall_mem_append]
termination_by structural items => items

theorem mapIntsOfFields_eq_self_iff : ∀ fields : List (String × Json),
    mapIntsOfFields f fields = fields ↔ ∀ n ∈ intsOfFields fields, f n = .int n
  | [] => by simp [mapIntsOfFields, intsOfFields]
  | (k, j) :: rest => by
    rw [mapIntsOfFields, intsOfFields, List.cons.injEq, Prod.mk.injEq, mapInts_eq_self_iff j,
      mapIntsOfFields_eq_self_iff rest, List.forall_mem_append, eq_self_iff_true, true_and]
termination_by structural fields => fields

end

end unchanged

end Json

namespace Numeric.Binary64

theorem le_divideToEven (num den : Nat) : num / den ≤ divideToEven num den := by
  rw [divideToEven]
  split_ifs <;> omega

theorem divideToEven_le (num den : Nat) : divideToEven num den ≤ num / den + 1 := by
  rw [divideToEven]
  split_ifs <;> omega

theorem exponentFor_le {units bits : Nat} (h : units < 2 ^ bits) :
    exponentFor units 1 ≤ bits - 53 := by
  rw [exponentFor, Nat.div_one]
  split_ifs with h0
  · omega
  · have hlog : units.log2 < bits := (Nat.log2_lt h0).mpr h
    omega

/-- At its exponent a number of units has 53 bits, or fewer when the exponent is zero. -/
theorem mantissa_bounds (units : Nat) :
    units / 2 ^ exponentFor units 1 < 2 ^ 53 ∧
      (exponentFor units 1 = 0 ∨ 2 ^ 52 ≤ units / 2 ^ exponentFor units 1) := by
  by_cases h0 : units = 0
  · simp [h0, exponentFor]
  have hexponent : exponentFor units 1 = units.log2 + 1 - 53 := by
    rw [exponentFor, Nat.div_one, if_neg h0]
  have hle : 2 ^ units.log2 ≤ units := Nat.log2_self_le h0
  have hlt : units < 2 ^ (units.log2 + 1) := Nat.lt_log2_self
  constructor
  · rw [Nat.div_lt_iff_lt_mul (Nat.two_pow_pos _), ← Nat.pow_add]
    exact hlt.trans_le (Nat.pow_le_pow_right Nat.two_pos (by omega))
  · refine (Nat.eq_zero_or_pos _).imp_right fun hpos => ?_
    rw [Nat.le_div_iff_mul_le (Nat.two_pow_pos _), ← Nat.pow_add]
    exact (Nat.pow_le_pow_right Nat.two_pos (by omega)).trans hle

/-- A number of units of at most 2097 bits is near a finite number. -/
theorem exists_roundUnits? (negative : Bool) {units bits : Nat} (hbits : bits ≤ 2097)
    (h : units < 2 ^ bits) : ∃ x, roundUnits? negative units 1 = some x := by
  have hexponent := exponentFor_le h
  obtain ⟨hmantissa, hnormal⟩ := mantissa_bounds units
  have hlow := le_divideToEven units (2 ^ exponentFor units 1)
  have hhigh := divideToEven_le units (2 ^ exponentFor units 1)
  rw [roundUnits?, Nat.one_mul]
  dsimp only [Nat.pow_eq]
  -- Rounding up may carry into a further bit, and then the exponent grows by one.
  split_ifs with hcarry
  · exact ⟨_, dif_pos ⟨by decide, by omega, .inr (Nat.le_refl _)⟩⟩
  · refine ⟨_, dif_pos ⟨?_, by omega, hnormal.imp_right fun hn => hn.trans hlow⟩⟩
    dsimp only [Nat.pow_eq]
    omega

/-- Every whole number of 64 bits has a nearest float. -/
theorem exists_ofNat? {n : Nat} (h : n < 2 ^ 64) : ∃ x, ofNat? n = some x := by
  have hround (k : Nat) (hk : 64 + k ≤ 2097) :
      ∃ x, roundUnits? false (n * Nat.pow 2 k) 1 = some x := by
    refine exists_roundUnits? false hk ?_
    rw [Nat.pow_add]
    exact Nat.mul_lt_mul_of_pos_right h (Nat.two_pow_pos k)
  rw [ofNat?, ofFraction?]
  generalize hk : 1074 = k
  exact hround k (by omega)

end Numeric.Binary64

namespace Yaml.Value

open Numeric (Binary64 maxInt64 maxWord64)

theorem intJson_eq_int_iff (n : Int) : intJson n = .int n ↔ n ≤ maxInt64 := by
  rw [intJson]
  split_ifs with h
  · simp [h]
  · refine iff_of_false ?_ h
    cases Binary64.ofNat? n.toNat <;> simp

theorem intJson_eq_float {n : Int} {x : Binary64} (h : maxInt64 < n)
    (hx : Binary64.ofNat? n.toNat = some x) : intJson n = .float x := by
  rw [intJson, if_neg (by omega), hx, Option.map_some, Option.getD_some]

mutual

/-- Through YAML a value keeps all but its whole numbers, which are read once more. -/
theorem toJson_ofJson : ∀ v : Json, v.Merged → (ofJson v).toJson = v.mapInts intJson
  | .arr items, hv => by
    rw [ofJson, toJson, Json.mapInts, itemsToJson_itemsOfJson items hv]
  | .obj fields, hv => by
    have hkeys : ((Json.mapIntsOfFields intJson fields).map Prod.fst).Nodup := by
      rw [Json.keys_mapIntsOfFields]
      exact hv.1
    rw [ofJson, toJson, Json.mapInts, entriesToJson_entriesOfJson fields hv.2,
      Entries.ofList_of_nodup hkeys]
  | .null, _ => rfl
  | .bool _, _ => rfl
  | .int _, _ => rfl
  | .float _, _ => rfl
  | .str _, _ => rfl
termination_by structural v => v

theorem itemsToJson_itemsOfJson : ∀ items : List Json, Json.MergedItems items →
    itemsToJson (itemsOfJson items) = Json.mapIntsOfItems intJson items
  | [], _ => rfl
  | j :: rest, hv => by
    rw [itemsOfJson, itemsToJson, Json.mapIntsOfItems, toJson_ofJson j hv.1,
      itemsToJson_itemsOfJson rest hv.2]
termination_by structural items => items

theorem entriesToJson_entriesOfJson : ∀ fields : List (String × Json), Json.MergedFields fields →
    entriesToJson (entriesOfJson fields) = Json.mapIntsOfFields intJson fields
  | [], _ => rfl
  | (k, j) :: rest, hv => by
    rw [entriesOfJson, entriesToJson, Json.mapIntsOfFields, keyText?, toJson_ofJson j hv.1,
      entriesToJson_entriesOfJson rest hv.2]
termination_by structural fields => fields

end

/-- The way through YAML takes nothing from a value exactly when its whole numbers are in the
signed 64-bit range. All others of 64 bits become the nearest floats, in their places. -/
theorem toJson_ofJson_eq_self_iff {v : Json} (hv : v.Merged) :
    ((ofJson v).toJson = v ↔ ∀ n ∈ v.ints, n ≤ maxInt64) ∧
      (ofJson v).toJson = v.mapInts intJson ∧
      ∀ n ∈ v.ints, maxInt64 < n → n ≤ maxWord64 →
        ∃ x, Binary64.ofNat? n.toNat = some x ∧ intJson n = .float x := by
  refine ⟨?_, toJson_ofJson v hv, fun n _ hlarge hword => ?_⟩
  · rw [toJson_ofJson v hv, Json.mapInts_eq_self_iff]
    exact forall₂_congr fun n _ => intJson_eq_int_iff n
  · have hbits : n.toNat < 2 ^ 64 := by
      simp only [maxWord64] at hword
      omega
    obtain ⟨x, hx⟩ := Binary64.exists_ofNat? hbits
    exact ⟨x, hx, intJson_eq_float hlarge hx⟩

theorem toJson_ofJson_eq_self_iff_nested :
    let v : Json := .obj [("steps", .arr [.int (-3), .null, .obj [("n", .int maxInt64)]]),
      ("scale", .float (.zero true)), ("name", .str "1")]
    v.Merged ∧ (∀ n ∈ v.ints, n ≤ maxInt64) ∧ (ofJson v).toJson = v := by
  intro v
  have hv : v.Merged := by simp [v, Json.Merged, Json.MergedFields, Json.MergedItems]
  have hints : ∀ n ∈ v.ints, n ≤ maxInt64 := by decide
  exact ⟨hv, hints, (toJson_ofJson_eq_self_iff hv).1.mpr hints⟩

/-- A count of 2^64 - 1 comes back as the float 2^64. -/
theorem toJson_ofJson_largest_count :
    let v : Json := .obj [("count", .int maxWord64)]
    v.Merged ∧ (∀ n ∈ v.ints, 0 ≤ n ∧ n ≤ maxWord64) ∧
      (ofJson v).toJson = .obj [("count", .float
        ⟨false, 4503599627370496, 1086, by decide, by decide, by decide⟩)] ∧
      (ofJson v).toJson ≠ v := by
  intro v
  have hback : (ofJson v).toJson = .obj [("count", .float
      ⟨false, 4503599627370496, 1086, by decide, by decide, by decide⟩)] := by decide +kernel
  refine ⟨by simp [v, Json.Merged, Json.MergedFields], by decide, hback, ?_⟩
  rw [hback]
  simp [v]

end Yaml.Value

end ColumnSelection
