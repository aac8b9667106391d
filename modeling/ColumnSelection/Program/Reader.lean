import ColumnSelection.Program.Basic
import ColumnSelection.Program.Literal
import ColumnSelection.Program.Variables
import ColumnSelection.Text.Search
import ColumnSelection.Yaml.Document

/-!
# Reading programs

A program is written as a JSON or YAML document or as lines, one step to a line. A strict reader
fails at the first faulty step; a lenient one leaves it out and gives a warning.
-/
namespace ColumnSelection.Program

/-- How programs are read, and the variables bound beforehand. -/
structure Reader where
  strict : Bool := false
  allowVariables : Bool := true
  bindings : Bindings := []

/-- A program as read, with the warnings on the way and the variables bound at the end. -/
structure Reading where
  program : Program
  warnings : List String
  bindings : Bindings

namespace Reader

/-- The configuration with its variables replaced. -/
def settle (r : Reader) (bindings : Bindings) (config : Json) : Except Failure Json :=
  if r.allowVariables then substitute bindings config else .ok config

/-- The configuration behind the operator of a line. -/
def lineConfig (text : String) : Except Failure Json :=
  if text.isEmpty then .ok (.obj [])
  else if Text.startsWith text "\x7b" then
    match Json.parse? text with
    | some config => .ok config
    | none => .error (.validation .stepSettings)
  else .ok (inlineConfig text)

/-- Reads a line without blanks at its ends: the operator up to the first blank, then its
configuration. -/
def readStepLine (r : Reader) (bindings : Bindings) (line : String) : Except Failure Step := do
  let operator := line.toList.takeWhile (!Text.isBlank ·)
  let rest := (line.toList.dropWhile (!Text.isBlank ·)).drop 1
  if operator.isEmpty then .error (.validation .emptyLine)
  else
    let config ← lineConfig (Text.trim (String.ofList rest))
    return ⟨String.ofList operator, ← r.settle bindings config⟩

/-- Reads a step of a document: an object, or a line in a string. -/
def readStep (r : Reader) (j : Json) : Except Failure Step :=
  match j with
  | .obj fields =>
    match (Entries.get? "operator" fields).bind Json.str? with
    | none => .error (.validation .missingOperator)
    | some operator => do
      return ⟨operator, ← r.settle r.bindings ((Entries.get? "config" fields).getD (.obj []))⟩
  | .str line => r.readStepLine r.bindings (Text.trim line)
  | _ => .error (.validation .stepNotReadable)

/-- Reads the steps of a document; steps are counted from `index`. -/
def readSteps (r : Reader) (index : Nat) : List Json → Except Failure (List Step × List String)
  | [] => .ok ([], [])
  | j :: rest =>
    match r.readStep j with
    | .ok step => do
      let (steps, warnings) ← r.readSteps (index + 1) rest
      return (step :: steps, warnings)
    | .error e =>
      if r.strict then .error (.validation (.step index e.message))
      else do
        let (steps, warnings) ← r.readSteps (index + 1) rest
        return (steps, s!"Step {index}: {e.message}" :: warnings)

/-- Reads the list of steps of a document. -/
def readStepList (r : Reader) (items : List Json) : Except Failure Reading := do
  let (steps, warnings) ← r.readSteps 0 items
  return ⟨⟨steps⟩, warnings, r.bindings⟩

/-- Reads a document: a list of steps, an object that has one under `steps` or `selection`, or a
single step. -/
def readDocument (r : Reader) (document : Json) : Except Failure Reading :=
  match document with
  | .arr items => r.readStepList items
  | .obj fields =>
    match (Entries.get? "steps" fields).or (Entries.get? "selection" fields) with
    | some (.arr items) => r.readStepList items
    | some _ => .error (.validation .stepsNotList)
    | none =>
      if Entries.contains "operator" fields then do
        return ⟨⟨[← r.readStep document]⟩, [], r.bindings⟩
      else .error (.validation .programWithoutSteps)
  | _ => .error (.validation .programNotContainer)

/-- Reads a JSON document. -/
def readJson (r : Reader) (source : String) : Except Failure Reading :=
  match Json.parse? source with
  | some document => r.readDocument document
  | none => .error (.validation .jsonText)

/-- Reads a YAML document. -/
def readYaml (r : Reader) (source : String) : Except Failure Reading :=
  match Yaml.parse? source with
  | some document => r.readDocument document
  | none => .error (.validation .yamlText)

/-- Reads the name and the value of a variable line. -/
def readBinding (line : String) : Except Failure (String × Json) :=
  match Text.splitOnce? '=' (line.toList.drop 1) with
  | none => .error (.validation .variableFormat)
  | some (name, value) =>
    let name := Text.trimBy Text.isBlank name
    if name.isEmpty then .error (.validation .variableWithoutName)
    else .ok (String.ofList name, listLiteral (Text.trimBy Text.isBlank value))

/-- Whether a trimmed line is empty or a comment. -/
def isIgnored (line : String) : Bool :=
  line.isEmpty || Text.startsWith line "#" || Text.startsWith line "//"

/-- A reading with one more step in front. -/
def Reading.addStep (step : Step) (reading : Reading) : Reading :=
  { reading with program := ⟨step :: reading.program.steps⟩ }

/-- A reading with one more warning in front. -/
def Reading.addWarning (warning : String) (reading : Reading) : Reading :=
  { reading with warnings := warning :: reading.warnings }

/-- Reads lines, counted from `number`, with the variables bound so far. -/
def readLinesFrom (r : Reader) (number : Nat) (bindings : Bindings) :
    List String → Except Failure Reading
  | [] => .ok ⟨⟨[]⟩, [], bindings⟩
  | line :: rest =>
    let text := Text.trim line
    if isIgnored text then r.readLinesFrom (number + 1) bindings rest
    else if r.allowVariables && Text.startsWith text "$" then
      match readBinding text with
      | .ok (name, value) =>
        r.readLinesFrom (number + 1) (Entries.put name value bindings) rest
      | .error e =>
        if r.strict then .error (.validation (.variableLine number e.message))
        else do
          let reading ← r.readLinesFrom (number + 1) bindings rest
          return Reading.addWarning s!"Line {number}: {e.message}" reading
    else
      match r.readStepLine bindings text with
      | .ok step => do
        let reading ← r.readLinesFrom (number + 1) bindings rest
        return Reading.addStep step reading
      | .error e =>
        if r.strict then .error (.validation (.stepLine number e.message))
        else do
          let reading ← r.readLinesFrom (number + 1) bindings rest
          return Reading.addWarning s!"Line {number}: {e.message}" reading

/-- Reads steps written as lines. -/
def readLines (r : Reader) (source : String) : Except Failure Reading :=
  r.readLinesFrom 1 r.bindings (Text.lines source)

/-- The forms in which programs are written. -/
inductive Form where
  | json
  | yaml
  | lines
deriving DecidableEq, Repr

/-- The form that a text is in, by what it begins with. -/
def formOf (source : String) : Form :=
  let front := String.ofList (Text.trimStartBy Text.isBlank source.toList)
  if Text.startsWith front "\x7b" || Text.startsWith front "[" then .json
  else if Text.startsWith front "steps:" || Text.startsWith front "selection:" ||
    Text.startsWith front "- " then .yaml
  else .lines

/-- Reads a program in the given form. -/
def readAs (r : Reader) (form : Form) (source : String) : Except Failure Reading :=
  match form with
  | .json => r.readJson source
  | .yaml => r.readYaml source
  | .lines => r.readLines source

/-- Reads a program in whatever form it is. -/
def read (r : Reader) (source : String) : Except Failure Reading :=
  r.readAs (formOf source) source

/-- What stands behind the last point of a file name; a point in front starts no extension. -/
def extension (fileName : String) : String :=
  match (Text.pieces (· == '.') fileName.toList).reverse with
  | last :: before =>
    if before.all List.isEmpty && before.length ≤ 1 then "" else String.ofList last
  | [] => ""

/-- Reads the content of a file, whose name may tell the form. -/
def readNamed (r : Reader) (fileName content : String) : Except Failure Reading :=
  let kind := Text.lower (extension fileName)
  if kind = "json" then r.readJson content
  else if kind = "yaml" ∨ kind = "yml" then r.readYaml content
  else r.read content

end Reader

end ColumnSelection.Program
