import TypedImport.Url.Basic
import TypedImport.Url.Percent

/-!
# Segments of a path

A path is read segment by segment onto the segments before it. A double dot takes the last one away, a
single dot adds nothing, and either leaves an empty last segment if the text ends with it. Dots may be
percent encoded.

**Drive letters.** A segment spelled like a drive (`C:` or `C|`) is never taken away by a double dot. In
a `file` URL a drive in front is written with a colon, belongs to no host, and stays when a relative
path replaces the last segment.
-/

namespace TypedImport.UrlPath

/-- A letter followed by a colon or a bar. -/
def isDrive : List Char → Bool
  | [a, b] => a.isAlpha && (b = ':' || b = '|')
  | _ => false

/-- A letter followed by a colon. -/
def isWrittenDrive : List Char → Bool
  | [a, ':'] => a.isAlpha
  | _ => false

/-- Whether a text begins with a drive that ends a segment. -/
def startsWithDrive (s : List Char) : Bool :=
  isDrive (s.take 2) &&
    (match s.drop 2 with
     | [] => true
     | c :: _ => c = '/' || c = '\\' || c = '?' || c = '#')

/-- The spellings of one dot. -/
def isDot (s : List Char) : Bool :=
  s = ['.'] || s.map Char.toLower = ['%', '2', 'e']

/-- The spellings of two dots. -/
def isDoubleDot (s : List Char) : Bool :=
  let t := s.map Char.toLower
  t = ['.', '.'] || t = ['.', '%', '2', 'e'] || t = ['%', '2', 'e', '.'] ||
    t = ['%', '2', 'e', '%', '2', 'e']

/-- The segments that a double dot leaves. -/
def shorten (segments : List String) : List String :=
  match segments.getLast? with
  | none => []
  | some last => if isDrive last.toList then segments else segments.dropLast

/-- The segments of a base that a relative path goes on from. -/
def parent (kind : SchemeKind) (segments : List String) : List String :=
  match segments.getLast? with
  | none => []
  | some last =>
    if kind = .file && isWrittenDrive last.toList then segments else segments.dropLast

/-- The text cut at its slashes. -/
def cut (kind : SchemeKind) (s : List Char) : List (List Char) :=
  Text.splitChars '/' (if kind.isSpecial then s.map fun c => if c = '\\' then '/' else c else s)

def stored (kind : SchemeKind) (first : Bool) (segment : List Char) : String :=
  match segment with
  | [a, b] =>
    if kind = .file && first && isDrive [a, b] then String.ofList [a, ':']
    else Percent.encode Percent.path segment
  | segment => Percent.encode Percent.path segment

/-- **Reads segments** onto those before them. -/
def extend (kind : SchemeKind) (before : List String) : List (List Char) → List String
  | [] => before
  | [last] =>
    if isDoubleDot last then shorten before ++ [""]
    else if isDot last then before ++ [""]
    else before ++ [stored kind before.isEmpty last]
  | segment :: rest =>
    if isDoubleDot segment then extend kind (shorten before) rest
    else if isDot segment then extend kind before rest
    else extend kind (before ++ [stored kind before.isEmpty segment]) rest

/-- The path of a `file` URL begins with no empty segment, unless it is nothing else. -/
def dropEmpty (segments : List String) : List String :=
  match segments.dropWhile (· = "") with
  | [] => [""]
  | rest => rest

/-- **The segments of a path text** that goes on from others. -/
def read (kind : SchemeKind) (before : List String) (s : List Char) : List String :=
  if kind = .file then dropEmpty (extend kind before (cut kind s)) else extend kind before (cut kind s)

end TypedImport.UrlPath
