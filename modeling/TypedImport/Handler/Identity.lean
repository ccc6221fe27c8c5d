import TypedImport.Digest.Sha256

/-!
# Handler identities

A handler is told from others by a word of 64 bits. Handlers made in the program get the numbers 1, 2,
3 and so on. The handler of a module has an identity derived from the module's path, with the highest
bit set, so that it is the same in every run and no number of a made handler.
-/

namespace TypedImport

/-- **Where a handler came from.** -/
inductive Origin where
  /-- Given with the import itself. -/
  | inline
  /-- The default export of a handler module. -/
  | externalModule
  /-- A default of the registry. -/
  | registry
  /-- Offered by the host. -/
  | native
  deriving DecidableEq, Repr

def Origin.name : Origin → String
  | .inline => "inline"
  | .externalModule => "external-module"
  | .registry => "registry"
  | .native => "native"

def Origin.all : List Origin := [inline, externalModule, registry, native]

def Origin.ofName? (name : String) : Option Origin :=
  all.find? fun o => o.name = name

/-- **The identity of a handler.** -/
structure HandlerId where
  raw : UInt64
  deriving DecidableEq, Repr

namespace HandlerId

/-- The identity of the handler made after `made` others. -/
def allocate (made : Nat) : HandlerId :=
  ⟨UInt64.ofNat (made + 1)⟩

/-- The number that bytes spell, first byte highest. -/
def bigEndian (bytes : Bytes) : Nat :=
  bytes.foldl (fun n b => n * 256 + b.toNat) 0

/-- **The identity derived from a key**: the first eight bytes of a digest, highest bit set. -/
def derive (origin : Origin) (key : String) : HandlerId :=
  ⟨UInt64.ofNat (bigEndian ((Sha256.digest (Utf8.encode (origin.name ++ ":" ++ key))).take 8)) |||
    0x8000000000000000⟩

def text (id : HandlerId) : String :=
  "#" ++ Hex.ofWord id.raw

end HandlerId

end TypedImport
