import TypedImport.Url.Reader

/-!
# Local paths and `file` URLs

An absolute path is a list of components: the names between slashes, without empty ones and single
dots; double dots are names like any other. A `file` URL of a path has one segment a component, encoded
so that decoding gives it back. In the other direction every segment is decoded, whatever it holds.

Paths are bytes: a decoded segment need not be UTF-8.
-/

namespace TypedImport

/-- **The components of a path.** -/
def pathComponents (path : List Char) : List (List Char) :=
  (Text.splitChars '/' path).filter fun name => !name.isEmpty && name != ['.']

/-- The bytes between slashes. -/
def cutBytes : Bytes → List Bytes
  | [] => [[]]
  | b :: rest =>
    if b = 0x2f then [] :: cutBytes rest
    else
      match cutBytes rest with
      | [] => [[b]]
      | name :: names => (b :: name) :: names

def byteComponents (path : Bytes) : List Bytes :=
  (cutBytes path).filter fun name => !name.isEmpty && name != [0x2e]

/-- Whether a path starts at the root. -/
def isAbsolutePath (path : String) : Bool :=
  path.toList.head? = some '/'

namespace Url

def ofSegments (segments : List String) : Url :=
  { bareFile with path := .segments (if segments.isEmpty then [""] else segments) }

/-- The segments of the components of a path. -/
def segmentsOfPath (path : String) : List String :=
  (pathComponents path.toList).map (Percent.encode Percent.segment)

/-- **The URL of an absolute path.** -/
def ofFilePath? (path : String) : Option Url :=
  if isAbsolutePath path then some (ofSegments (segmentsOfPath path)) else none

/-- The URL of an absolute path that is a directory: its text ends with a slash. -/
def ofDirectoryPath? (path : String) : Option Url :=
  if isAbsolutePath path then
    match segmentsOfPath path with
    | [] => some (ofSegments [])
    | segments => some (ofSegments (segments ++ [""]))
  else none

/-- Whether bytes end with a letter and a colon or bar. -/
def endsWithDrive (path : Bytes) : Bool :=
  match path.reverse with
  | b :: a :: _ :: _ => (Char.ofNat a.toNat).isAlpha && (b = 0x3a || b = 0x7c)
  | _ => false

/-- **The path of a URL without a host**: a slash and the decoded text of each segment. A path that
looks like one of a drive gets a slash at its end. -/
def toFilePath? (u : Url) : Option Bytes :=
  match u.segments?, u.authority.bind (·.host) with
  | some segments, none => some (close (decoded segments))
  | some segments, some (.domain name) =>
    if name = "localhost" then some (close (decoded segments)) else none
  | _, _ => none
where
  /-- A slash and the decoded text of each segment. -/
  decoded (segments : List String) : Bytes :=
    segments.flatMap fun s => 0x2f :: Percent.decode (Utf8.encode s)
  /-- The slash after a drive. -/
  close (path : Bytes) : Bytes :=
    if endsWithDrive path then path ++ [0x2f] else path

end Url

end TypedImport
