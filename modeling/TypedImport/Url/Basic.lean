import TypedImport.Text.Hex
import TypedImport.Text.Split

/-!
# URLs

A URL is kept in its parts: a scheme in lowercase, an authority if it has one, a path, and a query and
a fragment if there are any. The parts are stored as they are written, percent encoding included, so a
URL is written by putting them side by side.

**Paths.** A path is a list of segments, each written after a slash, or it is rootless: the text after
the scheme of a URL such as `data:x`. A URL with a rootless path cannot be the base of a relative one.
-/

namespace TypedImport

/-- **Why a text is no URL.** -/
inductive UrlFault where
  | emptyHost
  | invalidDomain
  | invalidPort
  | invalidIpv4
  | invalidIpv6
  | invalidHostCharacter
  | relativeWithoutBase
  | relativeToRootless
  deriving DecidableEq, Repr

/-- The words for a fault. -/
def UrlFault.message : UrlFault → String
  | .emptyHost => "empty host"
  | .invalidDomain => "invalid international domain name"
  | .invalidPort => "invalid port number"
  | .invalidIpv4 => "invalid IPv4 address"
  | .invalidIpv6 => "invalid IPv6 address"
  | .invalidHostCharacter => "invalid domain character"
  | .relativeWithoutBase => "relative URL without a base"
  | .relativeToRootless => "relative URL with a cannot-be-a-base base"

/-- **A host**: a name, or an address of 32 bits or of eight 16-bit groups. -/
inductive Host where
  | domain (name : String)
  | ipv4 (address : Nat)
  | ipv6 (groups : List Nat)
  deriving DecidableEq, Repr

/-- What follows `//`: user information with its `@`, a host unless it is empty, and a port unless it
is the usual one of the scheme. -/
structure Authority where
  userinfo : String := ""
  host : Option Host := none
  port : Option Nat := none
  deriving DecidableEq, Repr

/-- **A path.** -/
inductive UrlPath where
  | rootless (text : String)
  | segments (list : List String)
  deriving DecidableEq, Repr

/-- **A URL.** -/
structure Url where
  scheme : String
  authority : Option Authority
  path : UrlPath
  query : Option String := none
  fragment : Option String := none
  deriving DecidableEq, Repr

/-- What a scheme is to the rules of URLs. -/
inductive SchemeKind where
  | file
  | special
  | other
  deriving DecidableEq, Repr

def SchemeKind.of (scheme : String) : SchemeKind :=
  if scheme = "file" then .file
  else if scheme = "http" || scheme = "https" || scheme = "ws" || scheme = "wss" || scheme = "ftp" then
    .special
  else .other

/-- Whether a backslash is a slash. -/
def SchemeKind.isSpecial : SchemeKind → Bool
  | .other => false
  | _ => true

/-- The port that a scheme has without saying. -/
def usualPort (scheme : String) : Option Nat :=
  if scheme = "http" || scheme = "ws" then some 80
  else if scheme = "https" || scheme = "wss" then some 443
  else if scheme = "ftp" then some 21
  else none

namespace Host

/-- The digits of a group of an address. -/
def groupText (n : Nat) : String :=
  String.ofList (Nat.toDigits 16 n)

/-- How many groups from the front are zero. -/
def zeroRun : List Nat → Nat
  | 0 :: rest => zeroRun rest + 1
  | _ => 0

/-- The longest run of at least two zero groups, the first of several: its start and its length. -/
def longestZeros (groups : List Nat) : Option (Nat × Nat) :=
  let runs := (List.range groups.length).map fun i => (i, zeroRun (groups.drop i))
  (runs.filter fun r => 2 ≤ r.2).foldl
    (fun best r => match best with
      | none => some r
      | some b => if b.2 < r.2 then some r else some b)
    none

/-- Eight groups as an address, the longest run of zeros as `::`. -/
def ipv6Text (groups : List Nat) : String :=
  match longestZeros groups with
  | none => Text.join ":" (groups.map groupText)
  | some (start, length) =>
    Text.join ":" ((groups.take start).map groupText) ++ "::" ++
      Text.join ":" ((groups.drop (start + length)).map groupText)

def text : Host → String
  | .domain name => name
  | .ipv4 a =>
    Text.join "." ([a / 0x1000000 % 256, a / 0x10000 % 256, a / 0x100 % 256, a % 256].map toString)
  | .ipv6 groups => "[" ++ ipv6Text groups ++ "]"

end Host

/-- The text of an authority, after its two slashes. -/
def Authority.text (a : Authority) : String :=
  a.userinfo ++ (a.host.map Host.text).getD "" ++ ((a.port.map fun p => ":" ++ toString p).getD "")

/-- The text of a path: a slash before each segment. -/
def UrlPath.text : UrlPath → String
  | .rootless text => text
  | .segments list => String.join (list.map ("/" ++ ·))

namespace Url

/-- **A URL as text.** Without an authority, a path that begins with two slashes is set off by `/.`, so
that it is not taken for one. -/
def text (u : Url) : String :=
  let path := u.path.text
  let front := match u.authority with
    | some a => "//" ++ a.text
    | none => if "//".toList.isPrefixOf path.toList then "/." else ""
  u.scheme ++ ":" ++ front ++ path ++ (u.query.map ("?" ++ ·)).getD "" ++
    (u.fragment.map ("#" ++ ·)).getD ""

/-- The segments of a path, if it is one that starts with a slash. -/
def segments? (u : Url) : Option (List String) :=
  match u.path with
  | .segments (s :: rest) => some (s :: rest)
  | _ => none

/-- Whether relative URLs cannot be resolved against it. -/
def isRootless (u : Url) : Bool :=
  match u.path with
  | .rootless _ => true
  | .segments _ => false

end Url

end TypedImport
