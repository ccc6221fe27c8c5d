import TypedImport.Cache.Basic

/-!
# Shared computations

Requests for a record, the computations that they start, and the endings that they wait for. A request
that finds a computation of the same content under way waits for that one, so a record is computed once
however many ask for it.

**A run is a series of events.** A request comes in (`request`), a computation ends (`finish`), a request
that waits is resumed (`resume`) or dropped, the cache is cleared or an asset invalidated. The events may
come in any order; whoever uses the cache decides which comes next.

**Endings.** A computation that ends with a record or an error takes its mark away itself. One that
breaks off cannot: its mark is taken away when a request that waits for it is resumed.
-/

namespace TypedImport

/-- **How a computation ends.** -/
inductive Ending where
  | record (r : Record)
  | failed (error : ImportError)
  | panicked (message : String)

/-- **A computation**: what it is of, and how it ended. -/
structure Flight where
  key : CacheKey
  fingerprint : String
  ending : Option Ending := none

/-- **A record as it was served.** -/
structure Served where
  made : Made
  status : CacheStatus

/-- **How far a request has come** that waits for a computation. -/
inductive TicketState where
  | waiting
  | dropped
  | answered (result : Except ImportError Served)

/-- **A request that waits** or has waited for a computation. -/
structure Ticket where
  flight : Nat
  status : CacheStatus
  state : TicketState := .waiting

/-- **The cache with its computations and requests.** A computation has the number of its place in
`flights`, a waiting request that of its place in `tickets`. -/
structure Flights where
  cache : Cache := {}
  flights : List Flight := []
  tickets : List Ticket := []

/-- **The answer to a request.** -/
inductive Reply where
  | now (result : Except ImportError Served)
  /-- It has to wait, and does so under a number. -/
  | later (ticket : Nat) (status : CacheStatus)

namespace Flights

/-- The error of a computation that broke off. -/
def panicError (key : CacheKey) (message : String) : ImportError :=
  .handlerExecution key.url key.type key.handler (.computationPanicked message)

/-- What a computation's ending is to a request. -/
def resultOf (number : Nat) (key : CacheKey) (status : CacheStatus) :
    Ending → Except ImportError Served
  | .record r => .ok ⟨⟨number, r⟩, status⟩
  | .failed error => .error error
  | .panicked message => .error (panicError key message)

/-- The state after a request has seen an ending. -/
def afterSight (s : Flights) (number : Nat) (key : CacheKey) : Ending → Flights
  | .panicked _ => { s with cache := s.cache.complete key number none }
  | _ => s

/-- Writes how far a request has come. -/
def setTicket (s : Flights) (ticket : Nat) (state : TicketState) : Flights :=
  { s with tickets := s.tickets.modify ticket fun t => { t with state := state } }

/-- The ending that a request sees, with its number and key, if it waits and there is one. -/
def sight? (s : Flights) (ticket : Nat) : Option (Ticket × Flight × Ending) := do
  let t ← s.tickets[ticket]?
  match t.state with
  | .waiting =>
    let f ← s.flights[t.flight]?
    let ending ← f.ending
    return (t, f, ending)
  | _ => none

/-- **Resumes a request**: it is answered if its computation has ended. -/
def resume (s : Flights) (ticket : Nat) : Option (Except ImportError Served) × Flights :=
  match s.sight? ticket with
  | none => (none, s)
  | some (t, f, ending) =>
    let result := resultOf t.flight f.key t.status ending
    (some result, (s.setTicket ticket (.answered result)).afterSight t.flight f.key ending)

/-- Lets a request wait for a computation. It is answered at once if that has ended. -/
def await (s : Flights) (flight : Nat) (status : CacheStatus) : Reply × Flights :=
  let ticket := s.tickets.length
  match ({ s with tickets := s.tickets ++ [⟨flight, status, .waiting⟩] } : Flights).resume ticket with
  | (some result, s) => (.now result, s)
  | (none, s) => (.later ticket status, s)

/-- The state with a computation more. -/
def launch (s : Flights) (key : CacheKey) (fingerprint : String) : Flights :=
  { s with
    cache := s.cache.start key s.flights.length fingerprint
    flights := s.flights ++ [⟨key, fingerprint, none⟩] }

/-- **A request for the record of a key** and a content. -/
def request (s : Flights) (key : CacheKey) (fingerprint : String) : Reply × Flights :=
  match s.cache.lookup key fingerprint with
  | .hit made => (.now (.ok ⟨made, .hit⟩), s)
  | .conflict expected =>
    (.now (.error (.cacheConsistency key.url key.type key.handler expected fingerprint)), s)
  | .join computation => s.await computation .joined
  | .start => (s.launch key fingerprint).await s.flights.length .computed

/-- What becomes of the cache when a computation ends. -/
def cacheAfter (c : Cache) (key : CacheKey) (number : Nat) : Ending → Cache
  | .record r => c.complete key number (some r)
  | .failed _ => c.complete key number none
  | .panicked _ => c

/-- **A computation ends.** -/
def finish (s : Flights) (number : Nat) (ending : Ending) : Flights :=
  match s.flights[number]? with
  | some f =>
    if f.ending.isSome then s
    else
      { s with
        cache := cacheAfter s.cache f.key number ending
        flights := s.flights.modify number fun f => { f with ending := some ending } }
  | none => s

/-- Drops a request, unless it has been answered. -/
def drop (s : Flights) (ticket : Nat) : Flights :=
  { s with
    tickets := s.tickets.modify ticket fun t =>
      match t.state with
      | .waiting => { t with state := .dropped }
      | _ => t }

def clear (s : Flights) : Flights :=
  { s with cache := s.cache.clear }

/-- Removes everything of an asset from the cache. -/
def invalidate (s : Flights) (url : String) : Flights :=
  { s with cache := s.cache.invalidate url }

/-- **An event in the life of a cache.** -/
inductive Event where
  | request (key : CacheKey) (fingerprint : String)
  | finish (number : Nat) (ending : Ending)
  | resume (ticket : Nat)
  | drop (ticket : Nat)
  | clear
  | invalidate (url : String)

/-- The state after an event. -/
def after (s : Flights) : Event → Flights
  | .request key fingerprint => (s.request key fingerprint).2
  | .finish number ending => s.finish number ending
  | .resume ticket => (s.resume ticket).2
  | .drop ticket => s.drop ticket
  | .clear => s.clear
  | .invalidate url => s.invalidate url

/-- **The state after a series of events.** -/
def run (s : Flights) (events : List Event) : Flights :=
  events.foldl after s

end Flights

end TypedImport
