import TypedImport.Text.Blank
import TypedImport.Url.Basic

/-!
# Media types

What an asset is, as a media type: guessed from the extension of its URL, or read from the content type
that came with it, which may also name a charset.

**The guess** looks at the last piece of the path only. A name that begins with its only dot has no
extension, and an unknown extension is bytes.

**The content type** is cut at every semicolon: first the type, then parameters; the first parameter
named `charset` counts, quotes around its value dropped.
-/

namespace TypedImport.Media

/-- The type of plain bytes. -/
def octetStream : String := "application/octet-stream"

/-- The known extensions. -/
def extensions : List (String × String) :=
  [("json", "application/json"), ("webmanifest", "application/manifest+json"), ("csv", "text/csv"),
   ("tsv", "text/tab-separated-values"), ("txt", "text/plain"), ("text", "text/plain"),
   ("md", "text/markdown"), ("markdown", "text/markdown"), ("html", "text/html"),
   ("htm", "text/html"), ("css", "text/css"), ("scss", "text/x-scss"), ("sass", "text/x-sass"),
   ("less", "text/x-less"), ("js", "text/javascript"), ("mjs", "text/javascript"),
   ("cjs", "text/javascript"), ("ts", "application/typescript"), ("mts", "application/typescript"),
   ("cts", "application/typescript"), ("xml", "application/xml"), ("svg", "image/svg+xml"),
   ("yaml", "application/yaml"), ("yml", "application/yaml"), ("toml", "application/toml"),
   ("wasm", "application/wasm"), ("png", "image/png"), ("jpg", "image/jpeg"),
   ("jpeg", "image/jpeg"), ("gif", "image/gif"), ("webp", "image/webp")]

/-- The last piece of a path. -/
def fileName (path : List Char) : List Char :=
  (path.reverse.takeWhile (· != '/')).reverse

/-- The extension of a file name: what follows its last dot, unless nothing precedes it. -/
def extension? (name : List Char) : Option String :=
  match Text.cutLast '.' name with
  | some (_ :: _, ext) => some (Text.lower (String.ofList ext))
  | _ => none

/-- **The media type that the extension of a URL stands for.** -/
def ofExtension (url : Url) : String :=
  match extension? (fileName url.path.text.toList) with
  | some ext => (extensions.lookup ext).getD octetStream
  | none => octetStream

/-- Removes the quotes at both ends. -/
def unquote (s : List Char) : List Char :=
  ((s.dropWhile (· = '"')).reverse.dropWhile (· = '"')).reverse

/-- The charset that a parameter names, if it is named so. -/
def charset? (parameter : String) : Option String :=
  match Text.cutFirst '=' parameter.toList with
  | some (name, value) =>
    if Text.sameLetters (Text.trim (String.ofList name)) "charset" then
      some (Text.lower (String.ofList (unquote (Text.trimChars value))))
    else none
  | none => none

/-- **The media type and the charset of a content type.** -/
def readContentType (value : String) : String × Option String :=
  match Text.splitOn ';' value with
  | [] => ("", none)
  | media :: parameters => (Text.lower (Text.trim media), parameters.findSome? charset?)

/-- **Whether an asset of a type is text.** -/
def isTextual (media : String) : Bool :=
  let s := media.toList
  "text/".toList.isPrefixOf s || "+json".toList.isSuffixOf s || "+xml".toList.isSuffixOf s ||
    ["application/json", "application/xml", "application/javascript", "application/typescript",
     "application/yaml", "application/toml"].contains media

end TypedImport.Media
