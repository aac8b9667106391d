import ColumnSelection.Column.Codec
import ColumnSelection.Program.Compile
import ColumnSelection.Table.Basic

/-!
# Batch operators

An operator turns a batch of records into another by selecting columns of the table inferred from
the batch. Operators are made from a name and a configuration.
-/
namespace ColumnSelection

/-- What a batch operator does with its selection. -/
inductive BatchAction where
  /-- Keeps the selected columns only. -/
  | select
  /-- Keeps all columns but the selected ones. -/
  | remove
deriving DecidableEq, Repr

/-- The registered name of an action. -/
def BatchAction.name : BatchAction → String
  | .select => "columns.select"
  | .remove => "columns.remove"

/-- The action registered under a name. -/
def BatchAction.ofName? (name : String) : Option BatchAction :=
  [BatchAction.select, .remove].find? (·.name == name)

/-- An action with the selection that it applies and the settings for resolving it. -/
structure BatchOperator where
  action : BatchAction
  selection : Selection
  settings : Settings

namespace BatchOperator

/-- The operator that keeps what a selection names. -/
def select (selection : Selection) (settings : Settings) : BatchOperator :=
  ⟨.select, selection, settings⟩

/-- The operator that removes what a selection names; groups are rebuilt around nested columns. -/
def remove (exclusion : Selection) (settings : Settings) : BatchOperator :=
  ⟨.remove, .allExcept exclusion, settings⟩

/-- The settings that a configuration asks for. -/
def settingsOf (action : BatchAction) (fields : List (String × Json)) :
    Except Failure Settings := do
  let separator := (Entries.get? "path_separator" fields).getD (.str ".")
  let settings ← Settings.ofJson (.obj [("path_separator", separator)])
  match (Entries.get? "policy" fields).or (Entries.get? "unresolved" fields) with
  | none => return settings
  | some policy =>
    match Policy.ofJson? policy with
    | some unresolved => return { settings with unresolved := unresolved }
    | none => .error (.validation (.unknownPolicy action.name policy.compact))

/-- The operator of an action with this configuration. -/
def configure (action : BatchAction) (config : Json) : Logged BatchOperator :=
  match config with
  | .obj fields =>
    match Entries.get? "selection" fields with
    | none => Logged.fail (.validation (.withoutSelection action.name))
    | some program => do
      let strict := ((Entries.get? "strict" fields).bind Json.bool?).getD true
      let selection ← Program.compileValue strict program
      let settings ← Logged.ofExcept (settingsOf action fields)
      match action with
      | .select => return select selection settings
      | .remove => return remove selection settings
  | _ => Logged.fail (.validation (.settingsNotObject action.name))

/-- The operator registered under a name, with a configuration. -/
def create (name : String) (config : Json) : Logged BatchOperator :=
  match BatchAction.ofName? name with
  | some action => configure action config
  | none => Logged.fail (.validation (.unknownOperator name))

/-- Applies an operator to a batch; an empty batch stays as it is. -/
def apply (o : BatchOperator) (batch : List Record) : Logged (List Record) :=
  if batch.isEmpty then .ok batch
  else do
    let table ← Logged.ofExcept (Table.ofRecords batch)
    let projected ← table.select o.selection o.settings
    return projected.records

/-- How a failure of an operator is passed on: failures of resolution as they are, others with the
name of the operator. -/
def blame (o : BatchOperator) (e : Failure) : Failure :=
  if e.isResolution then e else .operator o.action.name e.message

/-- Runs an operator on a batch. -/
def run (o : BatchOperator) (batch : List Record) : Logged (List Record) :=
  match o.apply batch with
  | ⟨.ok records, notices⟩ => ⟨.ok records, notices⟩
  | ⟨.error e, notices⟩ => ⟨.error (o.blame e), notices⟩

/-- Runs operators one after the other, each on what the one before it made. -/
def runAll : List BatchOperator → List Record → Logged (List Record)
  | [], batch => .ok batch
  | o :: rest, batch => do
    let next ← o.run batch
    runAll rest next

end BatchOperator

end ColumnSelection
