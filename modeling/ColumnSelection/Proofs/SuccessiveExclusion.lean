import ColumnSelection.Proofs.Excluding

/-!
# Excluding one list of paths after another

Two exclusions one after the other leave what a single exclusion of all their paths leaves, also
where the first one rebuilds or drops a group that the second one goes into. What is left depends
on nothing but which paths are excluded, so neither their order nor their repetition matters.
-/
namespace ColumnSelection

open Column

variable {E₁ E₂ : List Path} {cs : List Column}

theorem exceptColumns_append (h : ∀ c ∈ cs, c.Anchored) :
    exceptColumns cs (E₁ ++ E₂) = exceptColumns (exceptColumns cs E₁) E₂ := by
  unfold exceptColumns
  simp only [excludeAll_eq_filterMap, List.filterMap_filterMap]
  exact List.filterMap_congr fun c hc => exclude?_append (h c hc)

/-- Exclusion looks at a list of paths as a set. -/
theorem exceptColumns_congr (h : ∀ c ∈ cs, c.Anchored) (hE : ∀ p, p ∈ E₁ ↔ p ∈ E₂) :
    exceptColumns cs E₁ = exceptColumns cs E₂ := by
  unfold exceptColumns
  rw [excludeAll_eq_filterMap, excludeAll_eq_filterMap]
  apply List.filterMap_congr
  intro c hc
  apply exclude?_congr (h c hc)
  · intro a _
    exact hE a.path
  · intro a _ _ _
    rw [Bool.eq_iff_iff, List.any_eq_true, List.any_eq_true]
    simp only [hE]

variable (E₁ E₂)

/-- The order of the excluded paths does not matter. -/
theorem exceptColumns_append_comm (h : ∀ c ∈ cs, c.Anchored) :
    exceptColumns cs (E₁ ++ E₂) = exceptColumns cs (E₂ ++ E₁) := by
  apply exceptColumns_congr h
  intro p
  simp only [List.mem_append, or_comm]

/-- Two exclusions in either order are the exclusion of all their paths, and repeating an exclusion
changes nothing. -/
theorem exceptColumns_exceptColumns (S : List Column) (hS : ∀ c ∈ S, c.Anchored) :
    exceptColumns (exceptColumns S E₁) E₂ = exceptColumns S (E₁ ++ E₂) ∧
      exceptColumns S (E₁ ++ E₂) = exceptColumns (exceptColumns S E₂) E₁ ∧
      exceptColumns (exceptColumns S E₁) E₁ = exceptColumns S E₁ := by
  refine ⟨(exceptColumns_append hS).symm, ?_, ?_⟩
  · rw [exceptColumns_append_comm E₁ E₂ hS]
    exact exceptColumns_append hS
  · rw [← exceptColumns_append hS]
    apply exceptColumns_congr hS
    intro p
    rw [List.mem_append, or_self]

/-- The first exclusion empties the inner group, and the second one names what is gone with it and
empties the rest; the inner group stands in the list once more by itself. -/
theorem exceptColumns_exceptColumns_nested :
    let x := Column.value ⟨"x", ⟨["g", "h", "x"]⟩, none⟩ ⟨.int, true⟩
    let y := Column.value ⟨"y", ⟨["g", "y"]⟩, none⟩ ⟨.int, true⟩
    let h := Column.group ⟨"h", ⟨["g", "h"]⟩, none⟩ [x]
    let g := Column.group ⟨"g", ⟨["g"]⟩, none⟩ [h, y]
    let S := [g, .topValue "a" ⟨.any, false⟩, h]
    let E₁ : List Path := [⟨["g", "h", "x"]⟩]
    let E₂ : List Path := [⟨["g", "y"]⟩, ⟨["g", "h"]⟩, ⟨["zz"]⟩]
    (∀ c ∈ S, c.Anchored) ∧ exceptColumns (exceptColumns S E₁) E₂ = exceptColumns S (E₁ ++ E₂) ∧
      exceptColumns S (E₁ ++ E₂) = exceptColumns (exceptColumns S E₂) E₁ ∧
      exceptColumns (exceptColumns S E₁) E₁ = exceptColumns S E₁ := by
  intro x y h g S E₁ E₂
  have hS : ∀ c ∈ S, c.Anchored := by
    simp [S, g, h, x, y, Anchored, AnchoredAll, topValue, Path.child, path, name, label]
  exact ⟨hS, exceptColumns_exceptColumns E₁ E₂ S hS⟩

end ColumnSelection
