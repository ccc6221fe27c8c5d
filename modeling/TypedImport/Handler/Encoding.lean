import TypedImport.Text.Blank
import TypedImport.Text.Utf8

/-!
# Encodings

How the bytes of an asset are to be read: as bytes, or as text of a named encoding. A name is trimmed
and in lowercase. What reads text takes the UTF-8 family (bytes too are read so) and Latin-1.
-/

namespace TypedImport

/-- **An encoding.** -/
inductive Encoding where
  | blob
  | text (label : String)
  deriving DecidableEq, Repr

namespace Encoding

def ofLabel (label : String) : Encoding :=
  .text (Text.lower (Text.trim label))

def name : Encoding → String
  | .blob => "blob"
  | .text label => label

end Encoding

/-- **Why bytes were not read as text.** -/
inductive DecodeFault where
  | notUtf8 (url : String) (fault : Utf8.Fault)
  | unsupported (label : String)
  deriving DecidableEq, Repr

/-- The sentence that tells a fault. -/
def DecodeFault.message : DecodeFault → String
  | .notUtf8 url fault => url ++ " is not valid UTF-8: " ++ fault.message
  | .unsupported label => "unsupported text encoding '" ++ label ++ "'"

namespace Encoding

/-- The names that are read as UTF-8. -/
def utf8Names : List String := ["blob", "utf-8", "utf8", "us-ascii", "ascii"]

/-- The names that are read one byte a character. -/
def latin1Names : List String := ["iso-8859-1", "latin1", "latin-1"]

/-- A text without the byte order mark at its front. -/
def dropMark : List Char → List Char
  | '\ufeff' :: rest => rest
  | s => s

/-- **Reads bytes as text**; `url` is named in the fault. -/
def decode (encoding : Encoding) (url : String) (bytes : Bytes) : Except DecodeFault (List Char) :=
  if utf8Names.contains encoding.name then
    match Utf8.decodeChars bytes with
    | .ok s => .ok (dropMark s)
    | .error fault => .error (.notUtf8 url fault)
  else if latin1Names.contains encoding.name then
    .ok (bytes.map fun b => Char.ofNat b.toNat)
  else .error (.unsupported encoding.name)

end Encoding

end TypedImport
