import ColumnSelection.Proofs.Cells
import ColumnSelection.Table.Basic

/-!
# Faults of schemas

Building a tree and inferring one from rows can fail in one way only, by a fault of the schema:
siblings that share a name, rows that are no objects, or values that do not fit together.
-/
namespace ColumnSelection

/-- The computation succeeds or fails with a fault of the schema. -/
def SchemaFaultOnly {α : Type} (x : Except Failure α) : Prop :=
  ∀ e, x = .error e → ∃ fault, e = .schema fault

namespace SchemaFaultOnly

variable {α β : Type}

theorem ok (a : α) : SchemaFaultOnly (.ok a : Except Failure α) :=
  FailsWithin.ok a

theorem fault (f : SchemaFault) : SchemaFaultOnly (.error (.schema f) : Except Failure α) :=
  FailsWithin.error ⟨f, rfl⟩

theorem bind {x : Except Failure α} {f : α → Except Failure β}
    (hx : SchemaFaultOnly x) (hf : ∀ a, SchemaFaultOnly (f a)) : SchemaFaultOnly (x >>= f) :=
  FailsWithin.bind hx hf

/-- What does not succeed fails with a fault of the schema. -/
theorem exists_fault {x : Except Failure α} (hx : SchemaFaultOnly x) (h : ∀ a, x ≠ .ok a) :
    ∃ fault, x = .error (.schema fault) := by
  cases x with
  | error e =>
    obtain ⟨fault, rfl⟩ := hx e rfl
    exact ⟨fault, rfl⟩
  | ok a => exact absurd rfl (h a)

end SchemaFaultOnly

namespace Shape

theorem schemaFaultOnly_withScalar (path : String) (observed : DataType) (shape : Shape) :
    SchemaFaultOnly (withScalar path observed shape) := by
  cases shape with
  | group seen layout => exact .fault _
  | frame seen layout => exact .fault _
  | _ => exact .ok _

theorem observe_arr_of_not_any {items : List Json} (h : ¬ items.any Json.isObject = true)
    (path : String) (shape : Shape) :
    observe path shape (.arr items) =
      match shape with
      | .frame seen layout => .ok (.frame seen layout)
      | shape => shape.withScalar path ⟨.list, false⟩ := by
  cases shape <;> exact if_neg h

mutual

theorem schemaFaultOnly_observe :
    ∀ (j : Json) (path : String) (shape : Shape), SchemaFaultOnly (observe path shape j)
  | .null, _, _ => .ok _
  | .bool _, path, shape => schemaFaultOnly_withScalar path _ shape
  | .int _, path, shape => schemaFaultOnly_withScalar path _ shape
  | .float _, path, shape => schemaFaultOnly_withScalar path _ shape
  | .str _, path, shape => schemaFaultOnly_withScalar path _ shape
  | .obj fields, path, shape => by
    rw [observe]
    split
    · exact .fault _
    · exact .bind (schemaFaultOnly_observeFields fields path _) fun _ => .ok _
  | .arr items, path, shape => by
    by_cases hany : items.any Json.isObject = true
    · rw [observe_arr_of_any hany]
      split
      · exact .fault _
      · exact .bind (schemaFaultOnly_observeItems items path _ _) fun _ => .ok _
    · rw [observe_arr_of_not_any hany]
      split
      · exact .ok _
      · exact schemaFaultOnly_withScalar path _ _
termination_by structural j => j

theorem schemaFaultOnly_observeFields :
    ∀ (fields : List (String × Json)) (path : String) (layout : Layout),
      SchemaFaultOnly (observeFields path layout fields)
  | [], _, _ => .ok _
  | (_, j) :: rest, path, layout => by
    rw [observeFields]
    refine .bind (schemaFaultOnly_observe j _ _) fun shape => ?_
    exact schemaFaultOnly_observeFields rest path _
termination_by structural fields => fields

theorem schemaFaultOnly_observeItems :
    ∀ (items : List Json) (path : String) (seen : Nat) (layout : Layout),
      SchemaFaultOnly (observeItems path seen layout items)
  | [], _, _, _ => .ok _
  | .obj fields :: rest, path, seen, layout => by
    rw [observeItems]
    refine .bind (schemaFaultOnly_observeFields fields path layout) fun layout => ?_
    exact schemaFaultOnly_observeItems rest path (seen + 1) layout
  | .null :: rest, path, seen, layout => schemaFaultOnly_observeItems rest path seen layout
  | .bool _ :: _, _, _, _ => .fault _
  | .int _ :: _, _, _, _ => .fault _
  | .float _ :: _, _, _, _ => .fault _
  | .str _ :: _, _, _, _ => .fault _
  | .arr _ :: _, _, _, _ => .fault _
termination_by structural items => items

end

end Shape

theorem Layout.schemaFaultOnly_ofRows (index : Nat) (layout : Layout) (rows : List Record) :
    SchemaFaultOnly (ofRows index layout rows) := by
  induction rows generalizing index layout with
  | nil => exact .ok _
  | cons r rest ih =>
    rw [ofRows]
    cases r.payload with
    | obj fields =>
      refine .bind (Shape.schemaFaultOnly_observeFields fields "" layout) fun layout => ?_
      exact ih (index + 1) layout
    | _ => exact .fault _

namespace Tree

mutual

theorem schemaFaultOnly_checkBelow : ∀ c : Column, SchemaFaultOnly (checkBelow c)
  | .value .. => .ok _
  | .group l cs => schemaFaultOnly_checkSiblings cs l.path []
  | .frame _ s => schemaFaultOnly_checkSiblings s .root []
termination_by structural c => c

theorem schemaFaultOnly_checkSiblings :
    ∀ (cs : List Column) (scope : Path) (seen : List String),
      SchemaFaultOnly (checkSiblings scope seen cs)
  | [], _, _ => .ok _
  | c :: rest, scope, seen => by
    have hbelow := schemaFaultOnly_checkBelow c
    rw [checkSiblings]
    split
    · exact .fault _
    · cases hc : checkBelow c with
      | error e =>
        obtain ⟨fault, rfl⟩ := hbelow e hc
        exact .fault fault
      | ok _ => exact schemaFaultOnly_checkSiblings rest scope (c.name :: seen)
termination_by structural cs => cs

end

/-- Building a tree fails only with a fault of the schema. -/
theorem schemaFaultOnly_build (columns : List Column) : SchemaFaultOnly (build columns) :=
  .bind (schemaFaultOnly_checkSiblings _ .root []) fun _ => .ok _

/-- Inference fails only with a fault of the schema. -/
theorem schemaFaultOnly_infer (rows : List Record) : SchemaFaultOnly (infer rows) :=
  .bind (Layout.schemaFaultOnly_ofRows 0 [] rows) fun _ => schemaFaultOnly_build _

end Tree

theorem Table.schemaFaultOnly_ofRecords (records : List Record) :
    SchemaFaultOnly (ofRecords records) :=
  .bind (Tree.schemaFaultOnly_infer records) fun _ => .ok _

end ColumnSelection
