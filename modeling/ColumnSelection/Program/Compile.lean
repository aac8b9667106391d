import ColumnSelection.Logged
import ColumnSelection.Program.Filter
import ColumnSelection.Program.Reader
import ColumnSelection.Selection.Basic

/-!
# Compiling programs

A program is turned into one selection by letting each step refine what the steps before it have
built. Steps may hold programs of their own under `steps`; these are compiled one level down.
-/
namespace ColumnSelection.Program

/-- The compilation of the program that a step holds. -/
abbrev Nested := Program → Logged Selection

/-- Compiles the steps written inside a configuration. -/
def nestedProgram (nested : Nested) (j : Json) : Logged Selection :=
  match j with
  | .arr items => do
    let steps ← Logged.ofExcept (items.mapM fun item => (⟨false, true, []⟩ : Reader).readStep item)
    nested ⟨steps⟩
  | _ => Logged.fail (.validation .stepsNotList)

/-- The selection that a configuration holds: its steps, else the columns under `cols`, else those
that the arguments name. -/
def innerSelection? (nested : Nested) (config : Json) (args : List Json) :
    Logged (Option Selection) :=
  match config.get? "steps" with
  | some steps => do return some (← nestedProgram nested steps)
  | none => do
    let names ← Logged.ofExcept (match config.get? "cols" with
      | some cols => namesOf cols
      | none => args.mapM nameOf)
    if names.isEmpty then return none else return some (.columns (names.map .name))

/-- The selection that an operator needs in its configuration. -/
def innerSelection (nested : Nested) (o : Operator) (config : Json) : Logged Selection := do
  match ← innerSelection? nested config (arguments [] config) with
  | some inner => return inner
  | none => Logged.ofExcept (missing o "'steps', 'cols' or column names")

/-- The failure of an operator that stands where nothing is known to be made of it. -/
def withoutCompiler (o : Operator) : Failure :=
  .internal s!"operator '{o.word}' has no compiler"

/-- The selection that a source starts. -/
def startSelection (nested : Nested) (o : Operator) (config : Json) : Logged Selection :=
  match o with
  | .all => return .all
  | .colsAt => do
    return .positions (← Logged.ofExcept ((arguments ["indices"] config).mapM (countOf o)))
  | .colsWhere => do return .satisfying (← Logged.ofExcept (predicateArgument config))
  | .colsAtAnyDepth => do return .anyDepth (← Logged.ofExcept (predicateArgument config))
  | .colsOf => do return .ofType (← Logged.ofExcept (typeArgument o config))
  | .colsOfKind => do return .ofKinds (← Logged.ofExcept (kindsArgument o config))
  | .allExcept => do return .allExcept (← innerSelection nested o config)
  | .within => do
    let (group, rest) ← Logged.ofExcept (groupArgument o config)
    let inner ← innerSelection? nested config rest
    return .within (.name group) (inner.getD .all)
  | .allColsExcept => do
    let (group, rest) ← Logged.ofExcept (groupArgument o config)
    match ← innerSelection? nested config rest with
    | some exclusion => return .groupExcept (.name group) exclusion
    | none => Logged.ofExcept (missing o "columns to exclude")
  | .col | .cols => do
    let names ← Logged.ofExcept ((arguments ["names", "cols", "name"] config).mapM nameOf)
    if names.isEmpty then Logged.ofExcept (missing o "column names")
    else return .columns (names.map .name)
  | _ => Logged.fail (withoutCompiler o)

/-- The predicate of a source that acts as a filter. -/
def sourceFilter (o : Operator) (config : Json) : Except Failure Predicate :=
  match o with
  | .colsOf => do return .typeBelow (← typeArgument o config)
  | .colsOfKind => do return .kindIn (← kindsArgument o config)
  | _ => predicateArgument config

/-- The selection that a refinement makes of another. -/
def refine (nested : Nested) (o : Operator) (config : Json) (set : Selection) :
    Logged Selection :=
  match o with
  | .and => do return .and set (← innerSelection nested o config)
  | .except => do return .except set (← innerSelection nested o config)
  | .take => do return .slice set (.take (← count))
  | .takeLast => do return .slice set (.takeLast (← count))
  | .drop => do return .slice set (.drop (← count))
  | .dropLast => do return .slice set (.dropLast (← count))
  | .takeWhile => do return .slice set (.takeWhile (← predicate))
  | .takeLastWhile => do return .slice set (.takeLastWhile (← predicate))
  | .dropWhile => do return .slice set (.dropWhile (← predicate))
  | .dropLastWhile => do return .slice set (.dropLastWhile (← predicate))
  | .filter => do return .filter set (← predicate)
  | .distinct => return .distinct set
  | .simplify => return .simplify set
  | .nameContains => do return .filter set (.nameContains (← text) (ignoreCase config))
  | .nameStartsWith => do return .filter set (.nameStartsWith (← text) (ignoreCase config))
  | .nameEndsWith => do return .filter set (.nameEndsWith (← text) (ignoreCase config))
  | .nameMatches => do return .filter set (← Logged.ofExcept (matchesName (← text)))
  | .colsInGroups => return .groupChildren set
  | .firstCol => do return .pick set .first (← predicate?)
  | .lastCol => do return .pick set .last (← predicate?)
  | .singleCol => do return .pick set .single (← predicate?)
  | .named => do return .named set (← text)
  | _ => Logged.fail (withoutCompiler o)
where
  /-- The count argument. -/
  count : Logged Nat := Logged.ofExcept (countArgument o config)
  /-- The text argument. -/
  text : Logged String := Logged.ofExcept (textArgument o config)
  /-- The predicate argument. -/
  predicate : Logged Predicate := Logged.ofExcept (predicateArgument config)
  /-- The predicate argument, if there is one. -/
  predicate? : Logged (Option Predicate) := Logged.ofExcept (predicateArgument? config)

/-- Adds a step with a known operator to the selection built so far. -/
def applyOperator (nested : Nested) (current : Option Selection) (o : Operator) (config : Json) :
    Logged Selection :=
  if o.isSource then
    match current with
    | none => startSelection nested o config
    | some set =>
      if o.isFilteringSource then do
        return .filter set (← Logged.ofExcept (sourceFilter o config))
      else Logged.fail (.validation (.misplacedSource o.word))
  else refine nested o config (current.getD .all)

/-- The operator of a step. An unknown one is a failure when strict, and otherwise leaves the
step out. -/
def operatorOf (strict : Bool) (step : Step) : Logged (Option Operator) :=
  match Operator.lookup step.operator with
  | some name => do
    if name.deprecated then Logged.tell (.deprecated step.operator name.operator.word)
    return some name.operator
  | none =>
    if strict then Logged.fail (.validation (.unknownOperator step.operator))
    else do
      Logged.tell (.unknownOperator step.operator)
      return none

/-- Adds the steps of a list to the selection built so far. -/
def compileSteps (nested : Nested) (strict : Bool) (current : Option Selection) :
    List Step → Logged (Option Selection)
  | [] => .ok current
  | step :: rest => do
    match ← operatorOf strict step with
    | none => compileSteps nested strict current rest
    | some o =>
      let set ← applyOperator nested current o step.config
      compileSteps nested strict (some set) rest

/-- Compiles a program whose nested programs are at most `depth` levels deep. -/
def compileWithin (strict : Bool) : Nat → Program → Logged Selection
  | 0, _ => Logged.fail (.internal "steps are nested deeper than their text allows")
  | depth + 1, program => do
    match ← compileSteps (compileWithin strict depth) strict none program.steps with
    | some set => return set
    | none => Logged.fail (.validation .programWithoutOperators)

/-- Compiles a program. The weight of a program bounds the depth of the programs nested in it. -/
def compile (strict : Bool) (program : Program) : Logged Selection :=
  compileWithin strict (program.weight + 1) program

/-- Reads a program without variables and compiles it; the warnings of the reader become
notices. -/
def compileSource (strict : Bool) (source : String) : Logged Selection := do
  let reading ← Logged.ofExcept ((⟨strict, true, []⟩ : Reader).read source)
  Logged.tellAll (reading.warnings.map .programWarning)
  compile strict reading.program

/-- Compiles a program given as a value: a text is a source, any other value a document. -/
def compileValue (strict : Bool) (j : Json) : Logged Selection :=
  match j with
  | .str source => compileSource strict source
  | other => compileSource strict other.compact

end ColumnSelection.Program
