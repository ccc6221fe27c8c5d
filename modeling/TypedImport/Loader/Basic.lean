import TypedImport.Cache.Flights
import TypedImport.Handler.Invocation
import TypedImport.Handler.Resolver
import TypedImport.Import.Specifier
import TypedImport.Import.State
import TypedImport.Loader.Stats
import TypedImport.Source.Feed
import TypedImport.Source.Retry

/-!
# The loader

A loader brings assets in as records: it resolves the handler of an import, fetches the asset, and asks
the cache for the record, for which a computation runs the handler if none is ready or under way.

**Turns.** Many imports may be under way at once. An import, a computation and a handler that works as a
task of its own each go on by turns; a turn lasts until there is something to wait for: the next fetch,
an ending, the time, a gate. Turns of different tasks come in any order, and between them anything else
may happen to the loader (`Event`). A turn of a task that still has to wait changes nothing.

**What counts.** Every import is counted when it comes in, and once more when it ends in an error, with a
hit or by joining a computation.
-/

namespace TypedImport

/-- **How far an import has come.** -/
inductive Import.Stage where
  | begun (request : ImportRequest)
  /-- Before fetch number `attempt`, counted from 0, with the handler if it is resolved already, and
  until what time to wait. -/
  | fetching (request : ImportRequest) (early : Option Descriptor) (attempt : UInt32)
      (till : Option Nat)
  /-- Waiting for a computation. -/
  | computing (ticket : Nat)
  | done (result : Except ImportError Served)
  | dropped

/-- **An import**: how far it has come, and the states it went through. One that is refused before it
has a request goes through none. -/
structure Import where
  states : List ImportState := []
  stage : Import.Stage

/-- **How far a computation has come.** -/
inductive Computation.Stage where
  | begun
  | working (work : Work)
  | ended

/-- **A computation**: a handler that is to be run on an asset. -/
structure Computation where
  descriptor : Descriptor
  asset : Asset
  key : CacheKey
  stage : Computation.Stage := .begun

/-- **What an import asks the cache for**, once it has a handler and an asset: a record of the asset,
read as a type. With it stand the states that the import went through before. -/
structure Demand where
  states : List ImportState
  descriptor : Descriptor
  asset : Asset
  type : String

namespace Demand

/-- The key under which the record is kept. -/
def key (d : Demand) : CacheKey :=
  ⟨d.asset.url.text, d.descriptor.id, d.type⟩

/-- The computation that makes the record. -/
def computation (d : Demand) : Computation where
  descriptor := d.descriptor
  asset := d.asset
  key := d.key

end Demand

/-- **A loader** and everything under way in it. A computation has the same number here as among the
flights of the cache. -/
structure Loader where
  config : Config
  base : Option Url := none
  resolver : Resolver
  feed : Feed
  flights : Flights := {}
  imports : List Import := []
  computations : List Computation := []
  stats : Stats := {}
  /-- How often each handler was called. -/
  calls : Table HandlerId Nat := []
  now : Nat := 0
  opened : List String := []

namespace Loader

/-- **A loader as it is built**: nothing has come in, and nothing is kept. -/
def build (config : Config) (base : Option Url) (registry : Registry) (native : NativeMemo)
    (modules : ModuleTable) (feed : Feed) : Loader where
  config := config
  base := base
  resolver := { policy := config.policy, registry, native, modules }
  feed := feed

def isOpen (l : Loader) (gate : String) : Bool :=
  l.opened.contains gate

/-! ## Imports come in -/

/-- An import that is refused before it has a request. -/
def refuse (l : Loader) (e : ImportError) : Loader :=
  { l with
    imports := l.imports ++ [⟨[], .done (.error e)⟩]
    stats := { l.stats with imports := l.stats.imports + 1, failures := l.stats.failures + 1 } }

/-- **An import with a request comes in.** -/
def submit (l : Loader) (request : ImportRequest) : Loader :=
  { l with
    imports := l.imports ++ [⟨[.pending], .begun request⟩]
    stats := { l.stats with imports := l.stats.imports + 1 } }

/-- **An import comes in.** A bad assertion is told before a specifier that names no URL. -/
def startImport (l : Loader) (specifier : String) (referrer : Option Url) (a : Assertion)
    (bindings : Bindings) : Loader :=
  let resolved := Specifier.resolve l.base referrer specifier
  let shownUrl := match resolved with
    | .ok url => url.text
    | .error _ => specifier
  match a.check specifier shownUrl bindings with
  | .error e => l.refuse e
  | .ok a =>
    match resolved with
    | .error fault => l.refuse (.load specifier a.type none 0 (.unresolved fault))
    | .ok url =>
      match ImportRequest.make specifier url a bindings with
      | .error e => l.refuse e
      | .ok request => l.submit request

/-! ## Turns of imports -/

/-- Writes how far an import has come. -/
def setImport (l : Loader) (i : Nat) (states : List ImportState) (stage : Import.Stage) : Loader :=
  { l with imports := l.imports.set i ⟨states, stage⟩ }

/-- An import ends in an error. -/
def fail (l : Loader) (i : Nat) (states : List ImportState) (e : ImportError) : Loader :=
  { l.setImport i (states ++ [.failed]) (.done (.error e)) with
    stats := { l.stats with failures := l.stats.failures + 1 } }

/-- The counters after an import that was served. -/
def countServed (stats : Stats) : CacheStatus → Stats
  | .hit => { stats with hits := stats.hits + 1 }
  | .joined => { stats with joined := stats.joined + 1 }
  | .computed => stats

/-- An import ends with a record. -/
def complete (l : Loader) (i : Nat) (states : List ImportState) (served : Served) : Loader :=
  { l.setImport i (states ++ [.completed]) (.done (.ok served)) with
    stats := countServed l.stats served.status }

/-- An import ends. -/
def finishImport (l : Loader) (i : Nat) (states : List ImportState) :
    Except ImportError Served → Loader
  | .ok served => l.complete i states served
  | .error e => l.fail i states e

/-- **The cache is asked for the record of an asset.** -/
def serve (l : Loader) (i : Nat) (d : Demand) : Loader :=
  let cached := (l.flights.cache.get? d.key).any fun made =>
    made.record.fingerprint = d.asset.fingerprint
  let states := d.states ++ [if cached then .cacheHit else .invoking]
  match l.flights.request d.key d.asset.fingerprint with
  | (.now result, flights) => { l with flights := flights }.finishImport i states result
  | (.later ticket status, flights) =>
    let computations :=
      if status = .computed then l.computations ++ [d.computation] else l.computations
    { l with flights := flights, computations := computations }.setImport i states (.computing ticket)

/-- **The asset has been fetched**; now its media type is known. -/
def receive (l : Loader) (i : Nat) (states : List ImportState) (request : ImportRequest)
    (early : Option Descriptor) (fetched : Fetched) : Loader × Option Demand :=
  let (asset, native) :=
    Asset.ofFetched l.resolver.native request.url request.type request.assertion.encoding fetched
  let l :=
    { l with
      resolver := { l.resolver with native := native }
      stats := { l.stats with bytes := l.stats.bytes + asset.bytes.length } }
  match early with
  | some d => (l, some ⟨states, d, asset, request.type⟩)
  | none =>
    match l.resolver.resolve request.assertion.handler request.url.text request.type asset.media with
    | (.ok d, resolver) => ({ l with resolver := resolver }, some ⟨states, d, asset, request.type⟩)
    | (.error e, resolver) => ({ l with resolver := resolver }.fail i states e, none)

/-- The error of an import whose asset failed to load, with the handler if it is resolved. -/
def loadError (request : ImportRequest) (early : Option Descriptor) (attempts : UInt32)
    (failure : FetchFailure) : ImportError :=
  let e := Retry.error request.url.text request.type attempts failure
  match early with
  | some d => e.withHandler d.id
  | none => e

/-- Whether a fetch of a URL has to wait for a gate. -/
def isHeld (l : Loader) (url : Url) : Bool :=
  (l.feed.gate? url).any fun gate => !l.isOpen gate

/-- **A fetch**, unless it has to wait for a gate. -/
def fetchAsset (l : Loader) (i : Nat) (states : List ImportState) (request : ImportRequest)
    (early : Option Descriptor) (attempt : UInt32) : Loader × Option Demand :=
  if l.isHeld request.url then (l.setImport i states (.fetching request early attempt none), none)
  else
    let (result, feed) := l.feed.fetch request.url
    let l := { l with feed := feed }
    match result with
    | .ok fetched => l.receive i states request early fetched
    | .error failure =>
      match Retry.after l.config attempt failure with
      | .again wait =>
        (l.setImport i states
          (.fetching request early (attempt + 1) (some (l.now + wait.toNat))), none)
      | .giveUp attempts => (l.fail i states (loadError request early attempts failure), none)

/-- **The handler is resolved**, unless the choice has to wait for the asset. -/
def resolveHandler (l : Loader) (i : Nat) (states : List ImportState) (request : ImportRequest) :
    Loader × Option Demand :=
  let states := states ++ [.resolvingHandler]
  let (waits, resolver) := l.resolver.needsMedia request.assertion.handler request.type
  if waits then
    { l with resolver := resolver }.fetchAsset i (states ++ [ImportState.loadingSource]) request none 0
  else
    match resolver.resolve request.assertion.handler request.url.text request.type
      (Media.ofExtension request.url) with
    | (.ok d, resolver) =>
      { l with resolver := resolver }.fetchAsset i (states ++ [ImportState.loadingSource]) request
        (some d) 0
    | (.error e, resolver) => ({ l with resolver := resolver }.fail i states e, none)

/-- Whether the time of a wait is over. -/
def isPast (l : Loader) (till : Option Nat) : Bool :=
  till.all fun time => time ≤ l.now

/-- A turn of an import up to where it asks the cache, and what it asks for if it gets that far. -/
def approach (l : Loader) (i : Nat) : Loader × Option Demand :=
  match l.imports[i]? with
  | some ⟨states, .begun request⟩ => l.resolveHandler i states request
  | some ⟨states, .fetching request early attempt till⟩ =>
    if l.isPast till then l.fetchAsset i states request early attempt else (l, none)
  | _ => (l, none)

/-- **A turn of an import.** -/
def pollImport (l : Loader) (i : Nat) : Loader :=
  match l.imports[i]? with
  | some ⟨states, .computing ticket⟩ =>
    match l.flights.resume ticket with
    | (some result, flights) => { l with flights := flights }.finishImport i states result
    | (none, _) => l
  | _ =>
    match l.approach i with
    | (l, some d) => l.serve i d
    | (l, none) => l

/-- Drops an import that has not ended. -/
def dropImport (l : Loader) (i : Nat) : Loader :=
  match l.imports[i]? with
  | some ⟨_, .done _⟩ => l
  | some ⟨states, .computing ticket⟩ =>
    { l with flights := l.flights.drop ticket }.setImport i states .dropped
  | some ⟨states, _⟩ => l.setImport i states .dropped
  | none => l

/-! ## Turns of computations -/

/-- Writes how far a computation has come. -/
def setComputation (l : Loader) (c : Nat) (stage : Computation.Stage) : Loader :=
  { l with computations := l.computations.modify c fun comp => { comp with stage := stage } }

/-- A computation ends. -/
def endComputation (l : Loader) (c : Nat) (result : Except ImportError Record) : Loader :=
  let ending := match result with
    | .ok r => Ending.record r
    | .error e => .failed e
  { l with flights := l.flights.finish c ending }.setComputation c .ended

/-- A call goes on or has ended. -/
def continueWork (l : Loader) (c : Nat) (comp : Computation) : Work ⊕ CallEnd → Loader
  | .inl work => l.setComputation c (.working work)
  | .inr e =>
    l.endComputation c
      (Invoke.record l.config.handlerTimeout comp.descriptor comp.asset comp.key e)

/-- **The handler of a computation is called.** -/
def callHandler (l : Loader) (c : Nat) (comp : Computation) : Loader :=
  let handler := comp.descriptor.handler
  let nth := (l.calls.get? handler.id).getD 0
  let l :=
    { l with
      stats := { l.stats with invocations := l.stats.invocations + 1 }
      calls := l.calls.put handler.id (nth + 1) }
  match handler.call nth comp.asset.bytes (comp.asset.context comp.key.type) with
  | .panicked message =>
    l.endComputation c (.error (Invoke.error comp.descriptor comp.key (.panicked message)))
  | .started activity =>
    l.continueWork c comp
      ((Work.start comp.descriptor.origin activity l.now l.config.handlerTimeout.toNat).poll l.now
        l.isOpen)

/-- **A turn of a computation.** -/
def pollComputation (l : Loader) (c : Nat) : Loader :=
  match l.computations[c]? with
  | some comp =>
    match comp.stage with
    | .begun => l.callHandler c comp
    | .working work => l.continueWork c comp (work.poll l.now l.isOpen)
    | .ended => l
  | none => l

/-- **A turn of the task of a handler.** -/
def pollHandler (l : Loader) (c : Nat) : Loader :=
  match l.computations[c]? with
  | some comp =>
    match comp.stage with
    | .working work => l.setComputation c (.working (work.pollTask l.now l.isOpen))
    | _ => l
  | none => l

/-! ## Everything that may happen -/

/-- Makes a handler the default of types. -/
def define (l : Loader) (types : List String) (handler : Handler) :
    Except ImportError Descriptor × Loader :=
  let (result, resolver) := l.resolver.define types handler
  (result, { l with resolver := resolver })

/-- **Something that happens to a loader.** -/
inductive Event where
  | startImport (specifier : String) (referrer : Option Url) (a : Assertion) (bindings : Bindings)
  | submit (request : ImportRequest)
  | pollImport (i : Nat)
  | pollComputation (c : Nat)
  | pollHandler (c : Nat)
  | dropImport (i : Nat)
  | define (types : List String) (handler : Handler)
  | registerModule (path : String) (result : Except Failure HandlerModule)
  | clear
  | invalidate (url : String)
  | changeFeed (feed : Feed)
  | changeHost (host : NativeHost)
  | openGate (gate : String)
  | pass (ms : Nat)

/-- The loader after something has happened. -/
def after (l : Loader) : Event → Loader
  | .startImport specifier referrer a bindings => l.startImport specifier referrer a bindings
  | .submit request => l.submit request
  | .pollImport i => l.pollImport i
  | .pollComputation c => l.pollComputation c
  | .pollHandler c => l.pollHandler c
  | .dropImport i => l.dropImport i
  | .define types handler => (l.define types handler).2
  | .registerModule path result =>
    { l with resolver := { l.resolver with modules := l.resolver.modules.register path result } }
  | .clear => { l with flights := l.flights.clear }
  | .invalidate url => { l with flights := l.flights.invalidate url }
  | .changeFeed feed => { l with feed := feed }
  | .changeHost host =>
    { l with resolver := { l.resolver with native := l.resolver.native.withHost host } }
  | .openGate gate => { l with opened := gate :: l.opened }
  | .pass ms => { l with now := l.now + ms }

/-- **The loader after a series of events.** -/
def run (l : Loader) (events : List Event) : Loader :=
  events.foldl after l

end Loader

end TypedImport
