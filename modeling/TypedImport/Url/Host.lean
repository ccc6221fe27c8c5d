import TypedImport.Text.Blank
import TypedImport.Url.Basic
import TypedImport.Url.Percent
import TypedImport.Url.Punycode

/-!
# Reading hosts

A host in brackets is an address of eight groups. With a special scheme any other host is a domain
name: percent encoding is undone, letters are folded, labels above ASCII are written in Punycode, and
a name whose last label is a number must be an address of four bytes. With another scheme a host is
any text without the characters that end a part of a URL.
-/

namespace TypedImport.Host

/-- One group of an address, of up to four hexadecimal digits, and the rest. -/
def group (s : List Char) : Option (Nat × List Char) :=
  let digits := (s.take 4).takeWhile fun c => (Hex.value? c).isSome
  if digits.isEmpty then none
  else (Hex.number? digits).map fun n => (n, s.drop digits.length)

/-- A decimal byte of the tail of an address: up to three digits, no superfluous zero. -/
def byte? (s : List Char) : Option Nat :=
  if s.isEmpty || 3 < s.length || !s.all Char.isDigit || (1 < s.length && s.head? = some '0') then none
  else
    let n := s.foldl (fun n c => n * 10 + (c.toNat - 48)) 0
    if n < 256 then some n else none

/-- Four bytes with points between them, as two groups. -/
def dotted? (s : List Char) : Option (List Nat) :=
  match (Text.splitChars '.' s).map byte? with
  | [some a, some b, some c, some d] => some [a * 256 + b, c * 256 + d]
  | _ => none

/-- The groups between colons from one on, none of them empty; the last may be four bytes. -/
def groups? (s : List Char) : Nat → Option (List Nat)
  | 0 => none
  | fuel + 1 =>
    match dotted? s with
    | some two => some two
    | none => do
      let (n, rest) ← group s
      match rest with
      | [] => return [n]
      | ':' :: rest => return n :: (← groups? rest fuel)
      | _ => none

/-- The groups of a side of `::`, which may be none. -/
def side? (s : List Char) : Option (List Nat) :=
  if s.isEmpty then some [] else groups? s 9

/-- The parts before and after the first `::`. -/
def cutDouble (front : List Char) : List Char → Option (List Char × List Char)
  | ':' :: ':' :: rest => some (front.reverse, rest)
  | c :: rest => cutDouble (c :: front) rest
  | [] => none

/-- **The eight groups of an address in brackets.** -/
def ipv6? (s : List Char) : Option (List Nat) :=
  match cutDouble [] s with
  | none => do
    let all ← groups? s 9
    if all.length = 8 then return all else none
  | some (front, back) => do
    let before ← side? front
    let after ← side? back
    -- four bytes may only end the whole address
    if front.contains '.' && !front.isEmpty then none
    else if before.length + after.length ≤ 7 then
      return before ++ List.replicate (8 - before.length - after.length) 0 ++ after
    else none

/-- A number of an address of four bytes: decimal, octal after `0`, hexadecimal after `0x`. -/
def ipv4Number? (s : List Char) : Option Nat :=
  let inBase (base : Nat) (digits : List Char) : Option Nat :=
    digits.foldl
      (fun n c => n.bind fun n => ((Hex.value? c).filter (· < base)).map fun d => n * base + d)
      (some 0)
  match s with
  | [] => none
  | '0' :: 'x' :: rest => inBase 16 rest
  | '0' :: 'X' :: rest => inBase 16 rest
  | '0' :: c :: rest => inBase 8 (c :: rest)
  | s => inBase 10 s

/-- The labels of a name without the empty one after a final point. -/
def labels (s : List Char) : List (List Char) :=
  let all := Text.splitChars '.' s
  if all.getLast? = some [] then all.dropLast else all

/-- Whether the last label of a name is a number. -/
def endsInNumber (s : List Char) : Bool :=
  match (labels s).getLast? with
  | none => false
  | some last => (!last.isEmpty && last.all Char.isDigit) || (ipv4Number? last).isSome

/-- The address that a name ending in a number spells: up to four numbers, all but the last below 256,
the last filling the bytes that are left. -/
def ipv4? (s : List Char) : Option Nat :=
  let numbers := (labels s).map ipv4Number?
  if 4 < numbers.length || numbers.any (·.isNone) then none
  else
    match (numbers.filterMap id).reverse with
    | [] => none
    | last :: front =>
      let front := front.reverse
      if front.any (255 < ·) || Nat.pow 256 (4 - front.length) ≤ last then none
      else some (front.foldl (fun a n => a * 256 + n) 0 * Nat.pow 256 (4 - front.length) + last)

/-- The characters that no domain name holds. -/
def isForbidden (c : Char) : Bool :=
  c.toNat ≤ 0x20 || c.toNat = 0x7f || "%#/:<>?@[\\]^|".toList.contains c

/-- The lowercase letter of a letter of the Latin, Greek and Cyrillic blocks; the ideographic full
stops are points. -/
def foldChar (c : Char) : Char :=
  let n := c.toNat
  if n < 0x80 then c.toLower
  else if n = 0x3002 || n = 0xff0e || n = 0xff61 then '.'
  else if (0xc0 ≤ n && n ≤ 0xde && n != 0xd7) || (0x391 ≤ n && n ≤ 0x3a9) || (0x410 ≤ n && n ≤ 0x42f) then
    Char.ofNat (n + 32)
  else if 0x400 ≤ n && n ≤ 0x40f then Char.ofNat (n + 80)
  else if 0x100 ≤ n && n ≤ 0x137 && n != 0x130 && n % 2 = 0 then Char.ofNat (n + 1)
  else if 0x14a ≤ n && n ≤ 0x177 && n % 2 = 0 then Char.ofNat (n + 1)
  else if 0xff21 ≤ n && n ≤ 0xff3a then Char.ofNat (n - 0xff21 + 97)
  else if 0xff41 ≤ n && n ≤ 0xff5a then Char.ofNat (n - 0xff41 + 97)
  else if 0xff10 ≤ n && n ≤ 0xff19 then Char.ofNat (n - 0xff10 + 48)
  else c

/-- A label in ASCII; one that already is Punycode must decode to a label above ASCII. -/
def labelAscii? (label : List Char) : Option (List Char) :=
  if label.all (·.toNat < 0x80) then
    match label with
    | 'x' :: 'n' :: '-' :: '-' :: rest =>
      match Punycode.decode? rest with
      | some t => if t.any (0x80 ≤ ·.toNat) then some label else none
      | none => none
    | _ => some label
  else some ("xn--".toList ++ Punycode.encode label)

/-- **A domain name in ASCII.** -/
def domainAscii? (bytes : Bytes) : Option (List Char) :=
  match Utf8.decodeChars bytes with
  | .error _ => none
  | .ok s =>
    let folded := (s.map foldChar).filter fun c => c.toNat != 0xad && c.toNat != 0x200b
    if folded.any isForbidden then none
    else
      let labels := (Text.splitChars '.' folded).map labelAscii?
      if labels.any (·.isNone) then none
      else some (Text.join "." ((labels.filterMap id).map String.ofList)).toList

/-- An address in brackets, if the text begins like one. -/
def bracketed? (s : List Char) : Option (Except UrlFault Host) :=
  match s with
  | '[' :: rest =>
    some (if rest.getLast? = some ']' then
      match ipv6? rest.dropLast with
      | some groups => .ok (.ipv6 groups)
      | none => .error .invalidIpv6
    else .error .invalidIpv6)
  | _ => none

/-- **Reads the host of a URL with a special scheme.** -/
def parse (s : List Char) : Except UrlFault Host :=
  match bracketed? s with
  | some answer => answer
  | none =>
    match domainAscii? (Percent.decode (Utf8.encodeChars s)) with
    | none => .error .invalidDomain
    | some [] => .error .emptyHost
    | some name =>
      if endsInNumber name then
        match ipv4? name with
        | some a => .ok (.ipv4 a)
        | none => .error .invalidIpv4
      else .ok (.domain (String.ofList name))

/-- **Reads the host of a URL with another scheme**; an empty one is none. -/
def parseOpen (s : List Char) : Except UrlFault (Option Host) :=
  match bracketed? s with
  | some answer => answer.map some
  | none =>
    if s.any fun c => "\x00\t\n\r #/:<>?@[\\]^|".toList.contains c then .error .invalidHostCharacter
    else if s.isEmpty then .ok none
    else .ok (some (.domain (Percent.encode Percent.controls s)))

end TypedImport.Host
