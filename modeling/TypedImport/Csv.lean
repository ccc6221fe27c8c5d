import TypedImport.Json.Value
import TypedImport.Text.Blank
import TypedImport.Text.Split

/-!
# Comma separated values

A row a line, a field between commas; there are no quotes. Blanks around a field are dropped, and a
line of blanks only is no row.

**Fields.** A field that is a whole number of 64 bits is that number; one that is a decimal numeral of a
finite double is that double; every other field is text.
-/

namespace TypedImport.Csv

def field (chars : List Char) : Value :=
  let s := Text.trimChars chars
  match Number.int64? s with
  | some n => .int n
  | none =>
    match (Number.Decimal.ofChars? s).map Binary64.ofDecimal with
    | some x => if x.isFinite then .float x else .string (String.ofList s)
    | none => .string (String.ofList s)

/-- A line without the carriage returns at its end. -/
def dropReturns (line : List Char) : List Char :=
  (line.reverse.dropWhile (· = '\r')).reverse

/-- The fields of a line. -/
def row (line : List Char) : List Value :=
  (Text.splitFrom ',' [] [] line).map field

/-- **The rows of a text.** -/
def parse (s : List Char) : List (List Value) :=
  (((Text.lineChars s).map dropReturns).filter fun line => !line.all Text.isBlank).map row

end TypedImport.Csv
