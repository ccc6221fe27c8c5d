import TypedImport.Cache.Flights

/-!
# Rehearsing a cache

A cache is rehearsed by steps: requests with computations that are known beforehand, gates that hold
computations back until they are opened, requesters that are dropped. After each step everything that
can go on does: first the computations that are free to end, in the order they were started, then the
requests that wait for them.
-/

namespace TypedImport.Rehearsal

/-- **A computation known beforehand**: the gate it waits for, and how it ends. -/
structure Plan where
  gate : Option String := none
  ending : Ending

/-- **A step.** -/
inductive CacheStep where
  /-- A request that is waited for. -/
  | request (key : CacheKey) (fingerprint : String) (plan : Plan)
  /-- A request under a name, to be waited for later. -/
  | start (name : String) (key : CacheKey) (fingerprint : String) (plan : Plan)
  | await (name : String)
  | abort (name : String)
  | openGate (gate : String)
  | get (key : CacheKey)
  | clear
  | invalidate (url : String)

/-- **What a step gives.** -/
inductive CacheResult where
  | nothing
  | outcome (result : Except ImportError Served)
  | aborted
  | record (made : Option Made)
  | count (n : Nat)

/-- Where the answer to a request is found. -/
inductive Requester where
  | answered (result : Except ImportError Served)
  | holds (ticket : Nat)

/-- **A cache being rehearsed.** -/
structure CacheStage where
  flights : Flights := {}
  /-- The computations under way with their plans. -/
  pending : List (Nat × Plan) := []
  opened : List String := []
  requesters : Table String Requester := []

namespace CacheStage

/-- Whether a computation is free to end. -/
def isFree (s : CacheStage) (plan : Plan) : Bool :=
  match plan.gate with
  | some gate => s.opened.contains gate
  | none => true

/-- Lets the computations end that are free to. -/
def endFree (s : CacheStage) : CacheStage :=
  let (free, held) := s.pending.partition fun p => s.isFree p.2
  { s with
    flights := free.foldl (fun flights p => flights.finish p.1 p.2.ending) s.flights
    pending := held }

/-- Resumes every request that waits. -/
def resumeAll (s : CacheStage) : CacheStage :=
  { s with
    flights := (List.range s.flights.tickets.length).foldl
      (fun flights ticket => (flights.resume ticket).2) s.flights }

/-- Lets everything go on that can. -/
def settle (s : CacheStage) : CacheStage :=
  s.endFree.resumeAll

/-- A request comes in; its computation is put under way if it is started. -/
def request (s : CacheStage) (key : CacheKey) (fingerprint : String) (plan : Plan) :
    Requester × Bool × CacheStage :=
  let number := s.flights.flights.length
  match s.flights.request key fingerprint with
  | (.now result, flights) => (.answered result, false, { s with flights := flights })
  | (.later ticket status, flights) =>
    let ran := status = .computed
    (.holds ticket, ran,
      { s with
        flights := flights
        pending := if ran then s.pending ++ [(number, plan)] else s.pending })

/-- The answer to a request, as far as there is one. -/
def answer (s : CacheStage) : Requester → CacheResult
  | .answered result => .outcome result
  | .holds ticket =>
    match s.flights.tickets[ticket]? with
    | some ⟨_, _, .answered result⟩ => .outcome result
    | some ⟨_, _, .dropped⟩ => .aborted
    | _ => .nothing

/-- **Takes a step**: what it gives, and whether a computation was started for it. -/
def step (s : CacheStage) : CacheStep → CacheResult × Option Bool × CacheStage
  | .request key fingerprint plan =>
    let (requester, ran, s) := s.request key fingerprint plan
    let s := s.settle
    (s.answer requester, some ran, s)
  | .start name key fingerprint plan =>
    let (requester, ran, s) := s.request key fingerprint plan
    (.nothing, some ran, { s with requesters := s.requesters.put name requester }.settle)
  | .await name =>
    let s := s.settle
    (match s.requesters.get? name with
      | some requester => s.answer requester
      | none => .nothing,
      none, s)
  | .abort name =>
    match s.requesters.get? name with
    | some (.holds ticket) => (.nothing, none, { s with flights := s.flights.drop ticket }.settle)
    | _ => (.nothing, none, s)
  | .openGate gate => (.nothing, none, { s with opened := gate :: s.opened }.settle)
  | .get key => (.record (s.flights.cache.get? key), none, s)
  | .clear => (.nothing, none, { s with flights := s.flights.clear })
  | .invalidate url =>
    (.count (s.flights.cache.entriesOf url).length, none,
      { s with flights := s.flights.invalidate url })

end CacheStage

end TypedImport.Rehearsal
