import ColumnSelection.Failure

/-!
# Computations that give notices

Resolving and compiling may fail, and give notices to the user on the way. The notices given
before a failure are kept.
-/
namespace ColumnSelection

/-- What the user is told about while the work goes on. -/
inductive Notice where
  /-- A reference without a column was left out; `scope` is the text of the scope's path. -/
  | skipped (name scope : String)
  /-- An operator is written by an old name. -/
  | deprecated (written canonical : String)
  /-- A step with an unknown operator was left out. -/
  | unknownOperator (written : String)
  /-- The reader of a program gave this warning. -/
  | programWarning (warning : String)
deriving DecidableEq, Repr

/-- The wording of a notice. -/
def Notice.message : Notice → String
  | .skipped name scope => s!"skipping unresolved column '{name}' in '{scope}'"
  | .deprecated written canonical => s!"operator '{written}' is deprecated, use '{canonical}'"
  | .unknownOperator written => s!"Unknown operator '{written}', skipping"
  | .programWarning warning => s!"selection program: {warning}"

/-- A result or a failure, with the notices given on the way. -/
structure Logged (α : Type u) where
  outcome : Except Failure α
  notices : List Notice

namespace Logged

instance {α : Type u} : Inhabited (Logged α) :=
  ⟨⟨.error default, []⟩⟩

variable {α : Type u} {β : Type v}

/-- A result without notices. -/
def ok (a : α) : Logged α :=
  ⟨.ok a, []⟩

/-- A failure without notices. -/
def fail (e : Failure) : Logged α :=
  ⟨.error e, []⟩

/-- An outcome without notices. -/
def ofExcept (r : Except Failure α) : Logged α :=
  ⟨r, []⟩

/-- Gives one notice. -/
def tell (n : Notice) : Logged PUnit :=
  ⟨.ok ⟨⟩, [n]⟩

/-- Gives several notices. -/
def tellAll (ns : List Notice) : Logged PUnit :=
  ⟨.ok ⟨⟩, ns⟩

/-- Goes on with the result; a failure ends the work and keeps its notices. -/
def bind (x : Logged α) (f : α → Logged β) : Logged β :=
  match x with
  | ⟨.error e, notices⟩ => ⟨.error e, notices⟩
  | ⟨.ok a, notices⟩ => ⟨(f a).outcome, notices ++ (f a).notices⟩

instance : Monad Logged where
  pure := ok
  bind := bind

@[simp] theorem pure_eq_ok (a : α) : (pure a : Logged α) = ok a := rfl

@[simp] theorem ok_bind (a : α) (f : α → Logged β) : (ok a).bind f = f a := by
  simp [ok, bind]

@[simp] theorem fail_bind (e : Failure) (f : α → Logged β) : (fail e).bind f = fail e := rfl

/-- The results for the items of a list, in order, put together. -/
def collect (f : α → Logged (List β)) : List α → Logged (List β)
  | [] => ok []
  | a :: rest => do
    let front ← f a
    let back ← collect f rest
    return front ++ back

end Logged

end ColumnSelection
