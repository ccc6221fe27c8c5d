import TypedImport.Csv
import TypedImport.Handler.Basic
import TypedImport.Json.Reader

/-!
# Handlers that come with the library

JSON documents, tables of comma separated values, whole texts, and texts as lines. Each first reads the
bytes as text of the asset's encoding.
-/

namespace TypedImport

/-- **The handlers that come with the library.** -/
inductive Builtin where
  | json
  | csv
  | text
  | lines
  deriving DecidableEq, Repr

namespace Builtin

def name : Builtin → String
  | .json => "json"
  | .csv => "csv"
  | .text => "text"
  | .lines => "lines"

def ofName? (name : String) : Option Builtin :=
  [json, csv, text, lines].find? fun b => b.name = name

/-- The types that a handler declares. -/
def types : Builtin → List String
  | .json => ["json"]
  | .csv => ["csv"]
  | .text | .lines => []

/-- The failure on a text that is no JSON document. -/
def invalidJson : Failure := ⟨"invalid JSON", []⟩

/-- The exports made of the text of an asset. -/
def ofText : Builtin → List Char → Except Failure Value
  | .json, s =>
    match Json.read? s with
    | some v => .ok (.object [("default", v)])
    | none => .error invalidJson
  | .csv, s =>
    let rows := Csv.parse s
    .ok (.object
      [("columns", .int (rows.foldl (fun n row => max n row.length) 0 : Nat)),
       ("default", .array (rows.map .array)),
       ("rows", .int rows.length)])
  | .text, s => .ok (.object [("default", .string (String.ofList s)), ("length", .int s.length)])
  | .lines, s =>
    let lines := Text.lineChars s
    .ok (.object
      [("count", .int lines.length),
       ("default", .array (lines.map fun line => .string (String.ofList line)))])

/-- **What a handler makes of an asset.** -/
def run (b : Builtin) (bytes : Bytes) (context : Context) : Except Failure Value :=
  match context.encoding.decode context.url bytes with
  | .ok s => b.ofText s
  | .error fault => .error ⟨fault.message, []⟩

/-- The handler with an identity. -/
def handler (b : Builtin) (id : HandlerId) : Handler :=
  Handler.ofFunction id b.name b.types b.run

end Builtin

end TypedImport
