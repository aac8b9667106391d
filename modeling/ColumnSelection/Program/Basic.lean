import ColumnSelection.Failure
import ColumnSelection.Json.Printer
import ColumnSelection.Json.Reader
import ColumnSelection.Json.Record

/-!
# Selection programs

A program is a list of steps, each with the name of an operator and a configuration. Programs
are also written as JSON documents.
-/
namespace ColumnSelection

structure Step where
  operator : String
  config : Json
deriving Inhabited

structure Program where
  steps : List Step
deriving Inhabited

namespace Step

/-- The written form of a step. -/
def toJson (s : Step) : Json :=
  .obj [("operator", .str s.operator), ("config", s.config)]

/-- Reads a step; without a configuration it has an empty one. -/
def ofJson? (j : Json) : Option Step := do
  let [operator, config] ← Json.fieldsNamed? ["operator", "config"] j | none
  let operator ← (← operator).str?
  return ⟨operator, (config.getD (.obj [])).merge⟩

end Step

namespace Program

/-- The number of values and characters in the configurations. -/
def weight (p : Program) : Nat :=
  p.steps.foldl (fun n s => n + s.config.weight) 0

/-- The written form of a program. -/
def toJson (p : Program) : Json :=
  .obj [("nodes", .arr (p.steps.map Step.toJson))]

/-- Reads a program. -/
def ofJson? (j : Json) : Option Program := do
  let [some (.arr items)] ← Json.fieldsNamed? ["nodes"] j | none
  return ⟨← items.mapM Step.ofJson?⟩

/-- The document of a program. -/
def print (p : Program) : String :=
  p.toJson.pretty

/-- Reads the document of a program. -/
def parse (text : String) : Except Failure Program :=
  match (Json.read? text).bind ofJson? with
  | some p => .ok p
  | none => .error (.validation .programText)

end Program

end ColumnSelection
