import ColumnSelection.Json.Printer
import ColumnSelection.Json.Reader
import ColumnSelection.Json.Record
import ColumnSelection.Table.Basic

/-!
# Records as JSON

The written form of a record, and tables from files of rows: a row file has one JSON object on every
line that is not blank.
-/
namespace ColumnSelection

namespace Record

/-- The written form of a record. -/
def toJson (r : Record) : Json :=
  .obj ((match r.id with
    | some id => [("id", .str id)]
    | none => []) ++ [("payload", r.payload)])

/-- Reads a record. -/
def ofJson? (j : Json) : Option Record := do
  let [id, some payload] ← Json.fieldsNamed? ["id", "payload"] j | none
  return ⟨← Json.optionalString? id, payload.merge⟩

/-- The record that a line of a row file stands for: an object with a payload, or else the payload
itself. An identifier that is no string is taken by its JSON text. -/
def ofRow? (j : Json) : Option Record :=
  match j with
  | .obj fields =>
    match Entries.get? "payload" fields with
    | none => some ⟨none, j⟩
    | some payload =>
      let id := match Entries.get? "id" fields with
        | none | some .null => none
        | some (.str s) => some s
        | some other => some other.compact
      some ⟨id, payload⟩
  | _ => none

end Record

namespace Table

/-- Reads the rows of lines, counted from `number`. A line without text was not UTF-8. -/
def readRows (number : Nat) : List (Option String) → Except Failure (List Record)
  | [] => .ok []
  | none :: _ => .error (.io "stream did not contain valid UTF-8")
  | some line :: rest =>
    if (Text.trim line).isEmpty then readRows (number + 1) rest
    else
      match Json.parse? line with
      | none => .error (.validation (.rowText number))
      | some j =>
        match Record.ofRow? j with
        | none => .error (.validation (.rowNotObject number))
        | some r => do
          let rows ← readRows (number + 1) rest
          return r :: rows

/-- The table of a text of JSON lines. -/
def ofJsonLines (text : String) : Except Failure Table := do
  ofRecords (← readRows 1 ((Text.lines text).map some))

/-- The table of a file of JSON lines. -/
def ofJsonLinesFile (bytes : List UInt8) : Except Failure Table := do
  ofRecords (← readRows 1 (Text.linesOfBytes bytes))

end Table

end ColumnSelection
