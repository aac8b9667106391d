import ColumnSelection.Json.Basic
import ColumnSelection.Text.Pieces

/-!
# Values in line syntax

A value on a line is a quoted text, a number, a truth value, null, or else a plain text. Commas
make a list of values unless the value begins with a quote.
-/
namespace ColumnSelection.Program

open Numeric

/-- The quotes of line syntax. -/
def isQuote (c : Char) : Bool :=
  c = '"' || c = '\''

/-- Whether a value begins with a quote. -/
def opensQuoted (s : List Char) : Bool :=
  match s with
  | [] => false
  | c :: _ => isQuote c

/-- The value of one literal. A number without a finite value stays text. -/
def literal (s : List Char) : Json :=
  let text := String.ofList s
  if opensQuoted s then .str (String.ofList (Text.trimBy isQuote s))
  else match readInt64? s with
    | some n => .int n
    | none =>
      match readFloat? s with
      | some (.finite x) => .float x
      | some _ => .str text
      | none =>
        if text = "true" then .bool true
        else if text = "false" then .bool false
        else if text = "null" then .null
        else .str text

/-- The pieces between commas that are not empty. -/
def commaPieces (s : List Char) : List (List Char) :=
  (Text.pieces (· == ',') s).filter (!·.isEmpty)

/-- A literal, or the list of the literals between commas. -/
def listLiteral (s : List Char) : Json :=
  if !opensQuoted s && s.contains ',' then .arr ((commaPieces s).map literal) else literal s

/-- The settings that words spell: a word with an equality sign behind a key sets that key, all
others contribute literals to the positional arguments. -/
def readWords (fields : List (String × Json)) (args : List Json) :
    List String → List (String × Json) × List Json
  | [] => (fields, args)
  | word :: rest =>
    match Text.splitOnce? '=' word.toList with
    | some (c :: key, value) =>
      readWords (Entries.put (String.ofList (c :: key)) (listLiteral value) fields) args rest
    | _ => readWords fields (args ++ (commaPieces word.toList).map literal) rest

/-- The configuration that the words of a line spell. -/
def inlineConfig (s : String) : Json :=
  let (fields, args) := readWords [] [] (Text.words s)
  .obj (if args.isEmpty then fields else Entries.put "args" (.arr args) fields)

end ColumnSelection.Program
