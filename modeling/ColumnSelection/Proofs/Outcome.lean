import ColumnSelection.Logged
import Mathlib.Data.List.Forall2

/-!
# Successful outcomes

A computation in steps succeeds when each of its steps does, and fails at the first that does not.
These lemmas take an outcome apart into those of its steps.
-/
namespace ColumnSelection

universe u

variable {α β : Type u}

/-- Of two lists related item by item, every item of the second has a partner in the first. -/
theorem exists_mem_of_forall₂ {R : α → β → Prop} {xs : List α} {ys : List β}
    (h : List.Forall₂ R xs ys) {y : β} (hy : y ∈ ys) : ∃ x ∈ xs, R x y := by
  induction h with
  | nil => cases hy
  | @cons x _ xs _ hxy _ ih =>
    rcases List.mem_cons.mp hy with rfl | hy
    · exact ⟨x, List.mem_cons_self, hxy⟩
    · obtain ⟨x', hx', hxy'⟩ := ih hy
      exact ⟨x', .tail _ hx', hxy'⟩

@[simp] theorem bind_eq_ok {x : Except Failure α} {f : α → Except Failure β} {b : β} :
    (x >>= f) = .ok b ↔ ∃ a, x = .ok a ∧ f a = .ok b := by
  cases x <;> simp [bind, Except.bind]

theorem bind_eq_error {x : Except Failure α} {f : α → Except Failure β} {e : Failure} :
    (x >>= f) = .error e ↔ x = .error e ∨ ∃ a, x = .ok a ∧ f a = .error e := by
  cases x <;> simp [bind, Except.bind]

theorem exists_ok_of_mapM {f : α → Except Failure β} {xs : List α} {ys : List β}
    (h : xs.mapM f = .ok ys) : ∀ x ∈ xs, ∃ y, f x = .ok y := by
  induction xs generalizing ys with
  | nil => exact fun x hx => absurd hx List.not_mem_nil
  | cons x rest ih =>
    rw [List.mapM_cons, bind_eq_ok] at h
    obtain ⟨y, hx, h⟩ := h
    obtain ⟨ys, hrest, -⟩ := bind_eq_ok.mp h
    exact List.forall_mem_cons.mpr ⟨⟨y, hx⟩, ih hrest⟩

/-- Work on the items of a list fails at the first item where it does. -/
theorem mapM_eq_error_iff {f : α → Except Failure β} {xs : List α} {e : Failure} :
    xs.mapM f = .error e ↔ ∃ front x back, xs = front ++ x :: back ∧
      (∀ z ∈ front, ∃ y, f z = .ok y) ∧ f x = .error e := by
  induction xs with
  | nil => exact iff_of_false nofun fun ⟨front, x, back, h, _⟩ => by simp at h
  | cons x rest ih =>
    rw [List.mapM_cons, bind_eq_error]
    constructor
    · rintro (hx | ⟨y, hx, hrest⟩)
      · exact ⟨[], x, rest, rfl, fun z hz => absurd hz List.not_mem_nil, hx⟩
      · obtain hrest | ⟨ys, -, ⟨⟩⟩ := bind_eq_error.mp hrest
        obtain ⟨front, z, back, rfl, hfront, hz⟩ := ih.mp hrest
        exact ⟨x :: front, z, back, rfl, List.forall_mem_cons.mpr ⟨⟨y, hx⟩, hfront⟩, hz⟩
    · rintro ⟨front, z, back, hcut, hfront, hz⟩
      cases front with
      | nil =>
        obtain ⟨rfl, rfl⟩ := List.cons.inj hcut
        exact .inl hz
      | cons w front =>
        obtain ⟨rfl, rfl⟩ := List.cons.inj hcut
        obtain ⟨⟨y, hx⟩, hfront⟩ := List.forall_mem_cons.mp hfront
        exact .inr ⟨y, hx, bind_eq_error.mpr (.inl (ih.mpr ⟨front, z, back, rfl, hfront, hz⟩))⟩

/-- The computation succeeds or fails in one of the given ways. -/
def FailsWithin (P : Failure → Prop) (x : Except Failure α) : Prop :=
  ∀ e, x = .error e → P e

namespace FailsWithin

variable {P : Failure → Prop}

theorem ok (a : α) : FailsWithin P (.ok a) := by
  intro e h
  cases h

theorem error {e : Failure} (h : P e) : FailsWithin P (.error e : Except Failure α) := by
  intro e' h'
  cases h'
  exact h

theorem bind {x : Except Failure α} {f : α → Except Failure β} (hx : FailsWithin P x)
    (hf : ∀ a, FailsWithin P (f a)) : FailsWithin P (x >>= f) := by
  intro e h
  cases x with
  | error e' =>
    cases h
    exact hx e rfl
  | ok a => exact hf a e h

theorem mapM {f : α → Except Failure β} (hf : ∀ a, FailsWithin P (f a)) (xs : List α) :
    FailsWithin P (xs.mapM f) := by
  induction xs with
  | nil => exact .ok []
  | cons x rest ih =>
    rw [List.mapM_cons]
    exact .bind (hf x) fun y => .bind ih fun ys => .ok (y :: ys)

theorem outcome_bind {x : Logged α} {f : α → Logged β} (hx : FailsWithin P x.outcome)
    (hf : ∀ a, FailsWithin P (f a).outcome) : FailsWithin P (x >>= f).outcome := by
  obtain ⟨outcome, notices⟩ := x
  cases outcome with
  | error e =>
    intro e' h
    cases h
    exact hx e rfl
  | ok a => exact hf a

end FailsWithin

/-- Both computations fail alike or have related results. -/
inductive Corresponds (R : α → β → Prop) : Except Failure α → Except Failure β → Prop where
  | error (e : Failure) : Corresponds R (.error e) (.error e)
  | ok {a : α} {b : β} (h : R a b) : Corresponds R (.ok a) (.ok b)

namespace Corresponds

theorem refl {R : α → α → Prop} (hR : ∀ a, R a a) (x : Except Failure α) : Corresponds R x x := by
  cases x with
  | error e => exact .error e
  | ok a => exact .ok (hR a)

theorem bind {γ δ : Type u} {R : α → β → Prop} {S : γ → δ → Prop} {x : Except Failure α}
    {y : Except Failure β} {f : α → Except Failure γ} {g : β → Except Failure δ}
    (h : Corresponds R x y) (hfg : ∀ a b, R a b → Corresponds S (f a) (g b)) :
    Corresponds S (x >>= f) (y >>= g) := by
  cases h with
  | error e => exact .error e
  | ok hab => exact hfg _ _ hab

/-- Work that both begin with can be left out of the comparison. -/
theorem after {γ δ : Type u} {S : γ → δ → Prop} (x : Except Failure α)
    {f : α → Except Failure γ} {g : α → Except Failure δ} (hfg : ∀ a, Corresponds S (f a) (g a)) :
    Corresponds S (x >>= f) (x >>= g) := by
  refine (refl (R := Eq) (fun _ => rfl) x).bind ?_
  rintro a _ rfl
  exact hfg a

end Corresponds

namespace Logged

@[simp] theorem outcome_ok (a : α) : (ok a).outcome = .ok a := rfl

@[simp] theorem outcome_fail (e : Failure) : (fail e : Logged α).outcome = .error e := rfl

@[simp] theorem outcome_ofExcept (x : Except Failure α) : (ofExcept x).outcome = x := rfl

@[simp] theorem outcome_bind_eq_ok {x : Logged α} {f : α → Logged β} {b : β} :
    (x >>= f).outcome = .ok b ↔ ∃ a, x.outcome = .ok a ∧ (f a).outcome = .ok b := by
  obtain ⟨outcome, notices⟩ := x
  change (Logged.bind _ f).outcome = _ ↔ _
  cases outcome <;> simp [Logged.bind]

theorem outcome_bind_of_error {x : Logged α} {f : α → Logged β} {e : Failure}
    (h : x.outcome = .error e) : (x >>= f).outcome = .error e := by
  obtain ⟨outcome, notices⟩ := x
  cases h
  rfl

/-- Collecting succeeds when every item does, with the results in the order of the items. -/
theorem collect_eq_ok {f : α → Logged (List β)} {xs : List α} {ys : List β} :
    (collect f xs).outcome = .ok ys ↔
      ∃ parts : List (List β),
        List.Forall₂ (fun x part => (f x).outcome = .ok part) xs parts ∧ ys = parts.flatten := by
  induction xs generalizing ys with
  | nil =>
    simp only [collect, outcome_ok, Except.ok.injEq]
    constructor
    · rintro rfl
      exact ⟨[], .nil, rfl⟩
    · rintro ⟨_, hparts, rfl⟩
      cases hparts
      rfl
  | cons x rest ih =>
    simp only [collect, outcome_bind_eq_ok, ih, pure_eq_ok, outcome_ok, Except.ok.injEq]
    constructor
    · rintro ⟨part, hx, _, ⟨parts, hrest, rfl⟩, rfl⟩
      exact ⟨part :: parts, .cons hx hrest, by simp⟩
    · rintro ⟨_, hparts, rfl⟩
      cases hparts with
      | cons hx hrest => exact ⟨_, hx, _, ⟨_, hrest, rfl⟩, by simp⟩

/-- Every result collected is among those of some item. -/
theorem mem_of_collect_eq_ok {f : α → Logged (List β)} {xs : List α} {ys : List β}
    (h : (collect f xs).outcome = .ok ys) {y : β} (hy : y ∈ ys) :
    ∃ x ∈ xs, ∃ part, (f x).outcome = .ok part ∧ y ∈ part := by
  obtain ⟨parts, hparts, hys⟩ := collect_eq_ok.mp h
  obtain ⟨part, hpart, hy⟩ := List.mem_flatten.mp (hys ▸ hy)
  obtain ⟨x, hmem, hx⟩ := exists_mem_of_forall₂ hparts hpart
  exact ⟨x, hmem, part, hx, hy⟩

end Logged

end ColumnSelection
