/-!
# Failures

Every way in which reading, resolving, projecting or running can fail, by cause. The wording is
in one function for each type of cause. Texts of other readers (JSON, YAML, patterns) are not
part of a failure: its message ends where their report would begin.
-/
namespace ColumnSelection

/-- Malformed column trees and rows that do not fit together. -/
inductive SchemaFault where
  | stated (message : String)
  /-- Two sibling columns have one name. -/
  | repeatedName (name place : String)
  /-- Two columns of a projection have one display name. -/
  | repeatedOutput (name : String)
  /-- The payload of a record is not an object. -/
  | rowNotObject (index : Nat)
  /-- Two rows disagree on the layout of a column. -/
  | conflict (path observed : String)
deriving DecidableEq, Repr, Inhabited

namespace SchemaFault

def message : SchemaFault → String
  | .stated message => message
  | .repeatedName name place => s!"duplicate column name '{name}' in {place}"
  | .repeatedOutput name => s!"duplicate column name '{name}' in projection"
  | .rowNotObject index => s!"record {index} payload must be a JSON object"
  | .conflict path observed =>
    s!"column '{path}' holds a {observed} where another row has a different layout"

end SchemaFault

/-- Invalid parameters, texts and selection programs. -/
inductive ValidationFault where
  | stated (message : String)
  /-- A path text with a segment that is empty after trimming. -/
  | emptySegment (text : String)
  /-- A reference by a path without segments. -/
  | emptyReference
  | unknownType (name : String)
  | unknownKind (name : String)
  | namePattern
  | resolverSettings
  | jsonText
  | yamlText
  | stepSettings
  | programText
  /-- A line of a row file that is not JSON; lines are counted from one. -/
  | rowText (line : Nat)
  /-- A line of a row file that holds another value than an object. -/
  | rowNotObject (line : Nat)
  | stepsNotList
  | programWithoutSteps
  | programNotContainer
  /-- A failing step of a document, with the message of its failure; steps count from zero. -/
  | step (index : Nat) (reason : String)
  /-- A failing variable line; lines count from one. -/
  | variableLine (line : Nat) (reason : String)
  /-- A failing step line. -/
  | stepLine (line : Nat) (reason : String)
  | missingOperator
  | stepNotReadable
  | emptyLine
  | undefinedVariable (name : String)
  | variableFormat
  | variableWithoutName
  | unknownOperator (name : String)
  | programWithoutOperators
  /-- An operator that starts a selection stands behind another step. -/
  | misplacedSource (operator : String)
  /-- An operator lacks an argument. -/
  | missing (operator what : String)
  | notAName (text : String)
  | notACount (operator text : String)
  | notAPredicate (text : String)
  | settingsNotObject (operator : String)
  | withoutSelection (operator : String)
  | unknownPolicy (operator text : String)
deriving DecidableEq, Repr, Inhabited

namespace ValidationFault

def message : ValidationFault → String
  | .stated message => message
  | .emptySegment text => s!"column path '{text}' contains an empty segment"
  | .emptyReference => "column reference may not be empty"
  | .unknownType name => s!"unknown column type '{name}'"
  | .unknownKind name => s!"unknown column kind '{name}'"
  | .namePattern => "invalid name pattern:"
  | .resolverSettings => "invalid resolver config:"
  | .jsonText => "Invalid JSON:"
  | .yamlText => "Invalid YAML:"
  | .stepSettings => "Invalid JSON config:"
  | .programText => "Invalid program JSON:"
  | .rowText line => s!"invalid JSON on line {line}:"
  | .rowNotObject line => s!"line {line}: expected a JSON object"
  | .stepsNotList => "'steps' must be an array"
  | .programWithoutSteps => "program must be an array or an object with 'steps'"
  | .programNotContainer => "program must be an array or an object"
  | .step index reason => s!"Error parsing step {index}: {reason}"
  | .variableLine line reason => s!"Variable error at line {line}: {reason}"
  | .stepLine line reason => s!"Parse error at line {line}: {reason}"
  | .missingOperator => "Missing 'operator' field"
  | .stepNotReadable => "Node must be object or string"
  | .emptyLine => "Empty line"
  | .undefinedVariable name => s!"Undefined variable: {name}"
  | .variableFormat => "Variable must be in format $name=value"
  | .variableWithoutName => "Variable name is empty"
  | .unknownOperator name => s!"Unknown operator: {name}"
  | .programWithoutOperators => "selection program has no steps"
  | .misplacedSource operator =>
    s!"'{operator}' starts a selection and cannot follow another step"
  | .missing operator what => s!"'{operator}' requires {what}"
  | .notAName text => s!"expected a column name, got {text}"
  | .notACount operator text => s!"'{operator}' expects a non-negative integer, got {text}"
  | .notAPredicate text => s!"invalid column predicate: {text}"
  | .settingsNotObject operator => s!"{operator} config must be object"
  | .withoutSelection operator => s!"{operator} requires 'selection'"
  | .unknownPolicy operator text => s!"{operator} policy must be 'fail' or 'skip', got {text}"

end ValidationFault

/-- The categories of failure. -/
inductive Failure where
  /-- A name, path or position without a column in the scope described by `place`. -/
  | columnNotFound (name place : String)
  /-- A value or frame column where a group is needed. -/
  | notAGroup (path : String)
  /-- A typed reference found a column of another type. -/
  | typeMismatch (path expected actual : String)
  /-- A selection of one column found another number of columns. -/
  | ambiguous (count : Nat)
  | io (detail : String)
  | schema (fault : SchemaFault)
  | validation (fault : ValidationFault)
  /-- A record operator failed with this message. -/
  | operator (name message : String)
  | serialization (detail : String)
  | internal (detail : String)
deriving DecidableEq, Repr, Inhabited

namespace Failure

def message : Failure → String
  | .columnNotFound name place => s!"column '{name}' not found in {place}"
  | .notAGroup path => s!"column '{path}' is not a column group"
  | .typeMismatch path expected actual =>
    s!"column '{path}' has type {actual}, expected {expected}"
  | .ambiguous count => s!"expected exactly one column, selection resolved to {count}"
  | .io detail => s!"io error: {detail}"
  | .schema fault => "schema error: " ++ fault.message
  | .validation fault => "validation error: " ++ fault.message
  | .operator name message => s!"operator '{name}' failed: {message}"
  | .serialization detail => s!"serialization error: {detail}"
  | .internal detail => s!"internal error: {detail}"

/-- How a scope is named: an empty scope text stands for the root. -/
def placeOf (scope : String) : String :=
  if scope.isEmpty then "table root" else s!"group '{scope}'"

/-- A reference without a column, in the scope with this text. -/
def missingColumn (name scope : String) : Failure :=
  .columnNotFound name (placeOf scope)

/-- Whether the failure comes from resolving a selection. -/
def isResolution : Failure → Bool
  | .columnNotFound .. | .notAGroup _ | .typeMismatch .. | .ambiguous _ => true
  | _ => false

end Failure

end ColumnSelection
