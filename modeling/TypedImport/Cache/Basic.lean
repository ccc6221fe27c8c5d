import TypedImport.Import.Error
import TypedImport.Import.Record
import TypedImport.Table

/-!
# The cache of records

For a key the cache holds nothing, a record that is ready, or the mark of a computation that is still
under way and will make one. Computations are numbered; a mark is told from others by the number of its
computation, and a record by the number of the one that made it.

**One record an asset and type.** A record that becomes ready replaces the ready records of the same
asset and type under other handlers. Marks of other handlers stay.

**Late endings.** The ending of a computation counts only as long as its mark is there.
-/

namespace TypedImport

/-- **A record and the number of the computation that made it.** Two records are the same instance if
their numbers are equal. -/
structure Made where
  computation : Nat
  record : Record

/-- **How a request for a record was served.** -/
inductive CacheStatus where
  | hit
  | joined
  | computed
  deriving DecidableEq, Repr

def CacheStatus.name : CacheStatus → String
  | .hit => "hit"
  | .joined => "joined"
  | .computed => "computed"

namespace Cache

/-- **What the cache holds for a key.** -/
inductive Entry where
  | ready (made : Made)
  /-- A computation of an asset with this fingerprint is under way. -/
  | inFlight (computation : Nat) (fingerprint : String)

/-- Whether an entry is a ready record. -/
def Entry.isReady : Entry → Bool
  | .ready _ => true
  | .inFlight .. => false

/-- **What the cache says to a request.** -/
inductive Lookup where
  | hit (made : Made)
  | join (computation : Nat)
  /-- A computation of another content is under way. -/
  | conflict (expected : String)
  | start

end Cache

/-- **A cache of records.** -/
structure Cache where
  entries : Table CacheKey Cache.Entry := []
  /-- A key has one entry at most. -/
  distinct : entries.Distinct := by exact Table.Distinct.nil

namespace Cache

/-- **Looks up a key** for an asset with a fingerprint. -/
def lookup (c : Cache) (key : CacheKey) (fingerprint : String) : Lookup :=
  match c.entries.get? key with
  | some (.ready made) => if made.record.fingerprint = fingerprint then .hit made else .start
  | some (.inFlight computation expected) =>
    if expected = fingerprint then .join computation else .conflict expected
  | none => .start

/-- Marks that a computation is under way. -/
def start (c : Cache) (key : CacheKey) (computation : Nat) (fingerprint : String) : Cache :=
  ⟨c.entries.put key (.inFlight computation fingerprint), c.distinct.put ..⟩

/-- Whether the mark of a computation is there. -/
def isCurrent (c : Cache) (key : CacheKey) (computation : Nat) : Bool :=
  match c.entries.get? key with
  | some (.inFlight n _) => n = computation
  | _ => false

/-- Whether a ready record has to go when one of a key becomes ready. -/
def isReplacedBy (key : CacheKey) (entry : CacheKey × Entry) : Bool :=
  entry.2.isReady && entry.1.url = key.url && entry.1.type = key.type && entry.1.handler ≠ key.handler

/-- The cache with a record that is ready. -/
def publish (c : Cache) (key : CacheKey) (made : Made) : Cache :=
  ⟨Table.put (c.entries.filter fun entry => !isReplacedBy key entry) key (.ready made),
    (c.distinct.filter _).put ..⟩

/-- **The ending of a computation**, with a record or without. -/
def complete (c : Cache) (key : CacheKey) (computation : Nat) (record : Option Record) : Cache :=
  if c.isCurrent key computation then
    match record with
    | some record => c.publish key ⟨computation, record⟩
    | none => ⟨c.entries.erase key, c.distinct.erase key⟩
  else c

/-- The ready record of a key. -/
def get? (c : Cache) (key : CacheKey) : Option Made :=
  match c.entries.get? key with
  | some (.ready made) => some made
  | _ => none

/-- Removes everything. -/
def clear (_ : Cache) : Cache := {}

/-- The entries of an asset. -/
def entriesOf (c : Cache) (url : String) : Table CacheKey Entry :=
  c.entries.filter fun entry => entry.1.url = url

/-- Removes everything of an asset. -/
def invalidate (c : Cache) (url : String) : Cache :=
  ⟨c.entries.filter fun entry => entry.1.url ≠ url, c.distinct.filter _⟩

/-- How many records are ready. -/
def size (c : Cache) : Nat :=
  (c.entries.filter fun entry => entry.2.isReady).length

/-- How many computations are marked as under way. -/
def inFlightCount (c : Cache) : Nat :=
  (c.entries.filter fun entry => !entry.2.isReady).length

def text (c : Cache) : String :=
  "ModuleRecordCache \x7b records: " ++ toString c.size ++ ", in_flight: " ++
    toString c.inFlightCount ++ " \x7d"

end Cache

end TypedImport
