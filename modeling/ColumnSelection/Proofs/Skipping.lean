import ColumnSelection.Proofs.Outcome
import ColumnSelection.Selection.Resolve

/-!
# Skipping references

A reference without a column ends the resolution under one policy and is left out with a notice
under the other. A selection therefore resolves under the strict policy exactly when it resolves
under the lenient one without such a notice, and then to the same columns, however many steps
stand between the reference and the result.
-/
namespace ColumnSelection

namespace Logged

universe u

variable {α β : Type u} {x y : Logged α} {f g : α → Logged β}

/-- No reference was left out on the way. -/
def SkipsNothing (x : Logged α) : Prop :=
  ∀ name place, Notice.skipped name place ∉ x.notices

theorem skipsNothing_of_notices_eq_nil (h : x.notices = []) : x.SkipsNothing := by
  intro name place
  rw [h]
  exact List.not_mem_nil

theorem notices_bind_of_ok {a : α} (h : x.outcome = .ok a) :
    (x >>= f).notices = x.notices ++ (f a).notices := by
  obtain ⟨outcome, notices⟩ := x
  cases h
  rfl

theorem skipsNothing_bind_iff {a : α} (h : x.outcome = .ok a) :
    (x >>= f).SkipsNothing ↔ x.SkipsNothing ∧ (f a).SkipsNothing := by
  simp only [SkipsNothing, notices_bind_of_ok h, List.mem_append, not_or, forall_and]

/-- The first computation has the results that the second has when it leaves no reference out. -/
def IsStrictFormOf (x y : Logged α) : Prop :=
  ∀ a, x.outcome = .ok a ↔ y.outcome = .ok a ∧ y.SkipsNothing

theorem isStrictFormOf_self (h : x.notices = []) : x.IsStrictFormOf x := by
  intro a
  exact (and_iff_left (skipsNothing_of_notices_eq_nil h)).symm

theorem IsStrictFormOf.bind (hxy : x.IsStrictFormOf y) (hfg : ∀ a, (f a).IsStrictFormOf (g a)) :
    (x >>= f).IsStrictFormOf (y >>= g) := by
  intro b
  rw [outcome_bind_eq_ok, outcome_bind_eq_ok]
  constructor
  · rintro ⟨a, hx, hf⟩
    obtain ⟨hy, hskips⟩ := (hxy a).mp hx
    obtain ⟨hg, hskips'⟩ := (hfg a b).mp hf
    exact ⟨⟨a, hy, hg⟩, (skipsNothing_bind_iff hy).mpr ⟨hskips, hskips'⟩⟩
  · rintro ⟨⟨a, hy, hg⟩, hskips⟩
    obtain ⟨hskips, hskips'⟩ := (skipsNothing_bind_iff hy).mp hskips
    exact ⟨a, (hxy a).mpr ⟨hy, hskips⟩, (hfg a b).mpr ⟨hg, hskips'⟩⟩

theorem isStrictFormOf_collect {f g : α → Logged (List β)}
    (h : ∀ a, (f a).IsStrictFormOf (g a)) (xs : List α) :
    (collect f xs).IsStrictFormOf (collect g xs) := by
  induction xs with
  | nil => exact isStrictFormOf_self rfl
  | cons a rest ih =>
    rw [collect, collect]
    exact (h a).bind fun front => ih.bind fun back => isStrictFormOf_self rfl

end Logged

open Logged

namespace Scope

/-- The same scope under a policy. -/
def under (policy : Policy) (s : Scope) : Scope :=
  { s with settings := { s.settings with unresolved := policy } }

variable {s : Scope}

@[simp] theorem columns_under (policy : Policy) : (s.under policy).columns = s.columns := rfl

/-- The strict policy refuses where the lenient one gives a notice. -/
theorem isStrictFormOf_unresolved (name : String) (place : Path) :
    ((s.under .fail).unresolved name place).IsStrictFormOf
      ((s.under .skip).unresolved name place) := by
  intro cs
  constructor
  · intro h
    cases h
  · rintro ⟨-, hskips⟩
    exact absurd List.mem_cons_self (hskips name place.text)

theorem isStrictFormOf_walk (whole : Path) (reached : Option Column) (names : List String) :
    ((s.under .fail).walk whole reached names).IsStrictFormOf
      ((s.under .skip).walk whole reached names) := by
  induction names generalizing reached with
  | nil => exact isStrictFormOf_self rfl
  | cons n rest ih =>
    cases reached with
    | none =>
      rw [walk, walk, columns_under, columns_under]
      cases s.columns.find? (·.name == n) with
      | none => exact isStrictFormOf_unresolved _ _
      | some c => exact ih (some c)
    | some parent =>
      rw [walk, walk]
      split_ifs
      · cases parent.child? n with
        | none => exact isStrictFormOf_unresolved _ _
        | some c => exact ih (some c)
      · exact isStrictFormOf_self rfl

theorem isStrictFormOf_atPath (p : Path) :
    ((s.under .fail).atPath p).IsStrictFormOf ((s.under .skip).atPath p) := by
  rw [atPath, atPath]
  split_ifs
  · exact isStrictFormOf_self rfl
  · exact isStrictFormOf_walk p none p.segments

end Scope

variable {s : Scope}

theorem Reference.isStrictFormOf_resolve (r : Reference) :
    (r.resolve (s.under .fail)).IsStrictFormOf (r.resolve (s.under .skip)) := by
  cases r with
  | name text =>
    rw [resolve, resolve]
    exact (isStrictFormOf_self rfl).bind fun p => Scope.isStrictFormOf_atPath p
  | path p => exact Scope.isStrictFormOf_atPath p
  | typed p type =>
    rw [resolve, resolve]
    refine (Scope.isStrictFormOf_atPath p).bind fun cs => ?_
    -- The check of the types looks at the columns alone.
    cases cs.find? fun c => !c.fits type with
    | none => exact isStrictFormOf_self rfl
    | some c => exact isStrictFormOf_self rfl
  | resolved cs => exact isStrictFormOf_self rfl

namespace Selection

theorem isStrictFormOf_atIndex (i : Nat) :
    (atIndex (s.under .fail) i).IsStrictFormOf (atIndex (s.under .skip) i) := by
  rw [atIndex, atIndex, Scope.columns_under, Scope.columns_under]
  cases s.columns[i]? with
  | none => exact Scope.isStrictFormOf_unresolved _ _
  | some c => exact isStrictFormOf_self rfl

/-- The policy does not matter to a selection inside a group, nor to whether there is a group. -/
theorem isStrictFormOf_descend {inner : Selection}
    (h : ∀ s : Scope, (inner.resolve (s.under .fail)).IsStrictFormOf
      (inner.resolve (s.under .skip))) (g : Column) :
    (ofExcept ((s.under .fail).descend g) >>= fun below => inner.resolve below).IsStrictFormOf
      (ofExcept ((s.under .skip).descend g) >>= fun below => inner.resolve below) := by
  rw [Scope.descend, Scope.descend]
  split_ifs
  · let below : Scope := { s with group := some g }
    change ((ok (below.under .fail)).bind _).IsStrictFormOf ((ok (below.under .skip)).bind _)
    rw [ok_bind, ok_bind]
    exact h below
  · exact isStrictFormOf_self rfl

theorem isStrictFormOf_resolve (selection : Selection) (s : Scope) :
    (selection.resolve (s.under .fail)).IsStrictFormOf (selection.resolve (s.under .skip)) := by
  induction selection generalizing s with
  | all | satisfying | anyDepth => exact isStrictFormOf_self rfl
  | columns references => exact isStrictFormOf_collect Reference.isStrictFormOf_resolve references
  | positions indices => exact isStrictFormOf_collect isStrictFormOf_atIndex indices
  | within group inner ih =>
    exact group.isStrictFormOf_resolve.bind fun groups =>
      isStrictFormOf_collect (isStrictFormOf_descend ih) groups
  | and left right hleft hright | except left right hleft hright =>
    exact (hleft s).bind fun front => (hright s).bind fun back => isStrictFormOf_self rfl
  | slice source part ih | filter source p ih | distinct source ih | simplify source ih
  | groupChildren source ih =>
    exact (ih s).bind fun cs => isStrictFormOf_self rfl
  | pick source choice p ih =>
    -- What is missing for a choice is no reference: it fails under either policy.
    exact (ih s).bind fun cs => isStrictFormOf_self rfl
  | named source shown ih =>
    refine (ih s).bind fun cs => ?_
    match cs with
    | [c] => exact isStrictFormOf_self rfl
    | [] | _ :: _ :: _ => exact isStrictFormOf_self rfl

end Selection

/-- A selection resolves to columns under the strict policy exactly if it resolves to them under
the lenient policy and no reference is left out. -/
theorem Tree.select_fail_eq_ok_iff (t : Tree) (selection : Selection) (separator : Char)
    (cs : List Column) :
    (t.select selection ⟨.fail, separator⟩).outcome = .ok cs ↔
      (t.select selection ⟨.skip, separator⟩).outcome = .ok cs ∧
        (t.select selection ⟨.skip, separator⟩).SkipsNothing :=
  selection.isStrictFormOf_resolve { tree := t, settings := ⟨.fail, separator⟩ } cs

end ColumnSelection
