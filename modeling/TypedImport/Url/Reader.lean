import TypedImport.Url.Host
import TypedImport.Url.Segments

/-!
# Reading URLs

A text is read against an optional base. Blanks and control characters around it are dropped, tabs and
line ends inside it too. A text that begins with a scheme is a URL of its own, except that one with the
special scheme of the base may be relative to it; any other text is relative and needs a base.

`Url.parse` reads without a base, `Url.join` against one.
-/

namespace TypedImport.Url

/-- The text that is read: nothing below the blank around it, no tab and no line end in it. -/
def cleaned (s : List Char) : List Char :=
  let low : Char → Bool := fun c => c.toNat ≤ 0x20
  let inner := ((s.dropWhile low).reverse.dropWhile low).reverse
  inner.filter fun c => c != '\t' && c != '\n' && c != '\r'

/-- Whether a character may stand in a scheme. -/
def isSchemeChar (c : Char) : Bool :=
  c.isAlphanum || c = '+' || c = '-' || c = '.'

/-- The scheme at the front of a text, in lowercase, and what follows its colon. -/
def cutScheme? (s : List Char) : Option (String × List Char) :=
  match s with
  | [] => none
  | c :: _ =>
    if !c.isAlpha then none
    else
      match s.dropWhile isSchemeChar with
      | ':' :: rest => some (String.ofList ((s.takeWhile isSchemeChar).map Char.toLower), rest)
      | _ => none

/-- Where a path ends. -/
def isTailMark (c : Char) : Bool :=
  c = '?' || c = '#'

/-- The query and the fragment at the end of a text that begins with neither or with one of them. -/
def readTail (kind : SchemeKind) (s : List Char) : Option String × Option String :=
  let set := if kind.isSpecial then Percent.specialQuery else Percent.query
  let fragment : List Char → Option String
    | '#' :: rest => some (Percent.encode Percent.fragment rest)
    | _ => none
  match s with
  | '?' :: rest =>
    (some (Percent.encode set (rest.takeWhile (· != '#'))), fragment (rest.dropWhile (· != '#')))
  | s => (none, fragment s)

/-- The URL with the query and the fragment that a text ends in. -/
def withTail (u : Url) (s : List Char) : Url :=
  let (query, fragment) := readTail (.of u.scheme) s
  { u with query := query, fragment := fragment }

def endsAuthority (kind : SchemeKind) (c : Char) : Bool :=
  c = '/' || c = '?' || c = '#' || (kind.isSpecial && c = '\\')

/-- The user information of an authority, as stored. -/
def userinfoText (s : List Char) : String :=
  let user := Percent.encode Percent.userinfo (s.takeWhile (· != ':'))
  let password := Percent.encode Percent.userinfo ((s.dropWhile (· != ':')).drop 1)
  if user = "" && password = "" then ""
  else if password = "" then user ++ "@"
  else user ++ ":" ++ password ++ "@"

/-- A host text and what follows it: a host ends at the first colon outside brackets. -/
def cutHost (inside : Bool) : List Char → List Char × List Char
  | [] => ([], [])
  | c :: rest =>
    if c = ':' && !inside then ([], c :: rest)
    else
      let inside := if c = '[' then true else if c = ']' then false else inside
      let (host, after) := cutHost inside rest
      (c :: host, after)

/-- A port and what follows it; the usual port of the scheme is left out. -/
def readPort (scheme : String) (s : List Char) : Except UrlFault (Option Nat × List Char) :=
  let digits := s.takeWhile Char.isDigit
  let rest := s.dropWhile Char.isDigit
  let port : Nat := digits.foldl (fun n c => n * 10 + (c.toNat - 48)) 0
  if 65535 < port then .error .invalidPort
  else
    match rest with
    | c :: _ => if c = '\\' then .ok (number digits port, rest) else .error .invalidPort
    | [] => .ok (number digits port, [])
where
  /-- The port that digits stand for. -/
  number (digits : List Char) (port : Nat) : Option Nat :=
    if digits.isEmpty || usualPort scheme = some port then none else some port

/-- The host of an authority. -/
def readHost (kind : SchemeKind) (s : List Char) : Except UrlFault (Option Host) :=
  if kind.isSpecial then
    if s.isEmpty then .error .emptyHost else (Host.parse s).map some
  else Host.parseOpen s

/-- Reads an authority text: the authority, and what follows a port if that is not its end. -/
def readAuthority (scheme : String) (s rest : List Char) :
    Except UrlFault (Authority × List Char) := do
  let kind := SchemeKind.of scheme
  let (userinfo, s) ← match Text.cutLast '@' s with
    | none => .ok ("", s)
    | some ([], []) => if rest.isEmpty then .ok ("", []) else .error .emptyHost
    | some (user, s) => .ok (userinfoText user, s)
  let (hostText, portText) := cutHost false s
  let host ← readHost kind hostText
  if host.isNone && (!portText.isEmpty || userinfo != "") then .error .emptyHost
  let (port, left) ← match portText with
    | ':' :: digits => readPort scheme digits
    | _ => .ok (none, [])
  return (⟨userinfo, host, port⟩, left)

/-- The path of a URL with an authority, and the text after the path. -/
def readRooted (kind : SchemeKind) (s : List Char) : UrlPath × List Char :=
  let path := s.takeWhile fun c => !isTailMark c
  let tail := s.dropWhile fun c => !isTailMark c
  match path with
  | [] => (.segments (if kind.isSpecial then [""] else []), tail)
  | c :: rest =>
    if c = '/' || (kind.isSpecial && c = '\\') then (.segments (UrlPath.read kind [] rest), tail)
    else (.segments (UrlPath.read kind [] path), tail)

/-- Reads what follows `//`. -/
def readAfterSlashes (scheme : String) (s : List Char) : Except UrlFault Url := do
  let kind := SchemeKind.of scheme
  let authority := s.takeWhile fun c => !endsAuthority kind c
  let rest := s.dropWhile fun c => !endsAuthority kind c
  let (authority, left) ← readAuthority scheme authority rest
  let (path, tail) := readRooted kind (left ++ rest)
  return withTail ⟨scheme, some authority, path, none, none⟩ tail

/-- A URL whose path goes on from given segments. -/
def goOn (u : Url) (before : List String) (s : List Char) : Url :=
  let path := s.takeWhile fun c => !isTailMark c
  let tail := s.dropWhile fun c => !isTailMark c
  withTail { u with path := .segments (UrlPath.read (.of u.scheme) before path) } tail

/-- The segments of a path, none for a rootless one. -/
def segmentsOf (u : Url) : List String :=
  match u.path with
  | .segments list => list
  | .rootless _ => []

/-- Whether a character is a slash of either kind. -/
def isSlash (c : Char) : Bool :=
  c = '/' || c = '\\'

/-- Reads a text relative to a base that is no `file` URL. -/
def readRelative (base : Url) (s : List Char) : Except UrlFault Url :=
  match s with
  | [] => .ok { base with fragment := none }
  | '?' :: _ => .ok (withTail base s)
  | '#' :: rest => .ok { base with fragment := some (Percent.encode Percent.fragment rest) }
  | c :: rest =>
    if isSlash c then
      if (rest.head?.map isSlash).getD false then
        match s with
        | '/' :: '/' :: after => readAfterSlashes base.scheme after
        | s => readAfterSlashes base.scheme (s.dropWhile isSlash)
      else .ok (goOn base [] rest)
    else .ok (goOn base (UrlPath.parent (.of base.scheme) (segmentsOf base)) s)

/-- A `file` URL without a host and with an empty path. -/
def bareFile : Url :=
  ⟨"file", some {}, .segments [""], none, none⟩

/-- Reads the host of a `file` URL; `localhost` is no host. -/
def readFileHost (s : List Char) : Except UrlFault (Option Host) :=
  if s.isEmpty then .ok none
  else (Host.parse s).map fun h => if h = .domain "localhost" then none else some h

/-- Reads a `file` URL after its two slashes. A drive in the place of the host is the start of the
path, and a host before a drive is dropped. -/
def readFileAfterSlashes (s : List Char) : Except UrlFault Url := do
  let ends : Char → Bool := fun c => isSlash c || isTailMark c
  let hostText := s.takeWhile fun c => !ends c
  if UrlPath.isDrive hostText then return goOn bareFile [] s
  else
    let host ← readFileHost hostText
    let rest := s.dropWhile fun c => !ends c
    let path := match rest with
      | c :: after => if isSlash c then after else rest
      | [] => []
    let url := goOn { bareFile with authority := some { host := host } } [] path
    if (((segmentsOf url).head?.map fun t => UrlPath.isWrittenDrive t.toList)).getD false then
      return { url with authority := some {} }
    else return url

/-- Reads the rest of a `file` URL against a base that is one, if there is one. -/
def readFile (base : Option Url) (s : List Char) : Except UrlFault Url :=
  match s with
  | c :: rest =>
    if isSlash c then
      match rest with
      | d :: after =>
        if isSlash d then readFileAfterSlashes after else .ok (oneSlash rest)
      | [] => .ok (oneSlash [])
    else
      match base with
      | none => .ok (goOn bareFile [] s)
      | some base =>
        if c = '?' then .ok (withTail base s)
        else if c = '#' then
          .ok { base with fragment := some (Percent.encode Percent.fragment rest) }
        else if UrlPath.startsWithDrive s then .ok (goOn bareFile [] s)
        else .ok (goOn base (UrlPath.parent .file (segmentsOf base)) s)
  | [] =>
    match base with
    | some base => .ok { base with fragment := none }
    | none => .ok (goOn bareFile [] [])
where
  /-- A path from the root: the drive or else the host of the base stays. -/
  oneSlash (rest : List Char) : Url :=
    match base with
    | none => goOn bareFile [] rest
    | some base =>
      if UrlPath.startsWithDrive rest then goOn bareFile [] rest
      else
        match segmentsOf base with
        | first :: _ =>
          if UrlPath.isWrittenDrive first.toList then goOn bareFile [first] rest
          else goOn { bareFile with authority := base.authority } [] rest
        | [] => goOn { bareFile with authority := base.authority } [] rest

/-- Reads what follows a scheme. -/
def readWithScheme (base : Option Url) (scheme : String) (s : List Char) : Except UrlFault Url :=
  match SchemeKind.of scheme with
  | .file => readFile (base.filter (·.scheme = "file")) s
  | .special =>
    let slashes := (s.takeWhile isSlash).length
    match base with
    | some b =>
      if slashes < 2 && b.scheme = scheme then readRelative b s
      else readAfterSlashes scheme (s.dropWhile isSlash)
    | none => readAfterSlashes scheme (s.dropWhile isSlash)
  | .other =>
    match s with
    | '/' :: '/' :: rest => readAfterSlashes scheme rest
    | '/' :: rest => .ok (goOn ⟨scheme, none, .segments [], none, none⟩ [] rest)
    | s =>
      let path := s.takeWhile fun c => !isTailMark c
      let tail := s.dropWhile fun c => !isTailMark c
      .ok (withTail ⟨scheme, none, .rootless (Percent.encode Percent.controls path), none, none⟩ tail)

/-- **Reads a text against an optional base.** -/
def read (base : Option Url) (text : String) : Except UrlFault Url :=
  let s := cleaned text.toList
  match cutScheme? s with
  | some (scheme, rest) => readWithScheme base scheme rest
  | none =>
    match base with
    | none => .error .relativeWithoutBase
    | some base =>
      match s with
      | '#' :: rest => .ok { base with fragment := some (Percent.encode Percent.fragment rest) }
      | s =>
        if base.isRootless then .error .relativeToRootless
        else if base.scheme = "file" then readFile (some base) s
        else readRelative base s

/-- **Reads a text that is a URL of its own.** -/
def parse (text : String) : Except UrlFault Url :=
  read none text

/-- **Reads a text relative to a base.** -/
def join (base : Url) (text : String) : Except UrlFault Url :=
  read (some base) text

end TypedImport.Url
