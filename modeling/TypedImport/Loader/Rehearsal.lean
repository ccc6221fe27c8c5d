import TypedImport.Loader.Basic

/-!
# Rehearsing a loader

A loader is rehearsed by steps, and between the steps everything goes on that can. Tasks that can go on
take their turns in the order in which they became ready; a task that is met on the way goes to the end.
Time stands still as long as any task can go on, and passes only while a step waits: then it jumps to the
next time at which a task can go on.
-/

namespace TypedImport.Rehearsal

/-- **What takes turns**: an import, a computation, or the handler of a computation. -/
inductive Task where
  | import_ (i : Nat)
  | computation (c : Nat)
  | handler (c : Nat)
  deriving DecidableEq, Repr

namespace Task

/-- The loader after a turn of a task. -/
def poll (l : Loader) : Task → Loader
  | .import_ i => l.pollImport i
  | .computation c => l.pollComputation c
  | .handler c => l.pollHandler c

/-- Whether a task can go on. -/
def isReady (l : Loader) : Task → Bool
  | .import_ i =>
    match l.imports[i]? with
    | some ⟨_, .begun _⟩ => true
    | some ⟨_, .fetching request _ _ none⟩ => !l.isHeld request.url
    | some ⟨_, .fetching _ _ _ (some time)⟩ => time ≤ l.now
    | some ⟨_, .computing ticket⟩ => (l.flights.sight? ticket).isSome
    | _ => false
  | .computation c =>
    match l.computations[c]? with
    | some ⟨_, _, _, .begun⟩ => true
    | some ⟨_, _, _, .working work⟩ => work.isReady l.now l.isOpen
    | _ => false
  | .handler c =>
    match l.computations[c]? with
    | some ⟨_, _, _, .working work⟩ => work.taskIsReady l.now l.isOpen
    | _ => false

/-- Whether a task is not over. -/
def isAlive (l : Loader) : Task → Bool
  | .import_ i =>
    match l.imports[i]? with
    | some ⟨_, .done _⟩ | some ⟨_, .dropped⟩ | none => false
    | _ => true
  | .computation c =>
    match l.computations[c]? with
    | some ⟨_, _, _, .ended⟩ | none => false
    | _ => true
  | .handler c =>
    match l.computations[c]? with
    | some ⟨_, _, _, .working (.spawned (.inl _) _)⟩ => true
    | _ => false

/-- The time at which a task can go on by itself. -/
def wakeTime? (l : Loader) : Task → Option Nat
  | .import_ i =>
    match l.imports[i]? with
    | some ⟨_, .fetching _ _ _ till⟩ => till
    | _ => none
  | .computation c =>
    match l.computations[c]? with
    | some ⟨_, _, _, .working work⟩ => some work.nextTime
    | _ => none
  | .handler _ => none

end Task

/-- **A loader being rehearsed**: the tasks that can go on, those that wait, and the imports that have
names. -/
structure LoaderStage where
  loader : Loader
  ready : List Task := []
  waiting : List Task := []
  names : Table String Nat := []

namespace LoaderStage

/-- Moves the tasks that can go on to the others that can. -/
def wake (s : LoaderStage) : LoaderStage :=
  let (awake, asleep) := s.waiting.partition fun t => t.isReady s.loader
  { s with ready := s.ready ++ awake, waiting := asleep }

/-- The tasks that a turn has made. -/
def born (before after : Loader) : Task → List Task
  | .import_ _ =>
    (List.range' before.computations.length
      (after.computations.length - before.computations.length)).map .computation
  | .computation c => if (Task.handler c).isAlive after && !(Task.handler c).isAlive before
    then [.handler c] else []
  | .handler _ => []

def turn (s : LoaderStage) (t : Task) : LoaderStage :=
  let loader := t.poll s.loader
  let again := if t.isAlive loader then [t] else []
  { s with
    loader := loader
    ready := s.ready ++ born s.loader loader t
    waiting := s.waiting ++ again }.wake

/-- How many turns a rehearsal takes at most before it stops. -/
def patience : Nat := 1000000

/-- Lets tasks take turns as long as any can go on. -/
def settleWithin (s : LoaderStage) : Nat → LoaderStage
  | 0 => s
  | turns + 1 =>
    match s.ready with
    | [] => s
    | t :: rest => settleWithin ({ s with ready := rest }.turn t) turns

/-- **Lets everything go on that can.** -/
def settle (s : LoaderStage) : LoaderStage :=
  s.wake.settleWithin patience

/-- The next time at which a task can go on by itself. -/
def nextTime? (s : LoaderStage) : Option Nat :=
  (s.waiting.filterMap fun t => t.wakeTime? s.loader).foldl
    (fun best time => if time ≤ s.loader.now then best else some ((best.map (min time)).getD time)) none

/-- Lets time pass up to a moment. -/
def passTo (s : LoaderStage) (time : Nat) : LoaderStage :=
  { s with loader := s.loader.after (.pass (time - s.loader.now)) }

/-- Lets time jump from one moment to the next until something is true. -/
def waitUntil (finished : Loader → Bool) (s : LoaderStage) : Nat → LoaderStage
  | 0 => s
  | jumps + 1 =>
    let s := s.settle
    if finished s.loader then s
    else
      match s.nextTime? with
      | none => s
      | some time => waitUntil finished (s.passTo time) jumps

/-- Lets time pass up to a moment, stopping wherever a task can go on. -/
def advanceTo (target : Nat) (s : LoaderStage) : Nat → LoaderStage
  | 0 => s
  | jumps + 1 =>
    let s := s.settle
    match s.nextTime? with
    | some time =>
      if time ≤ target then advanceTo target (s.passTo time) jumps
      else (s.passTo target).settle
    | none => (s.passTo target).settle

/-- Whether an import is over. -/
def isOver (i : Nat) (l : Loader) : Bool :=
  !(Task.import_ i).isAlive l

/-- Lets an import that has just come in take its turns. -/
def withImport (s : LoaderStage) (loader : Loader) : LoaderStage :=
  { s with
    loader := loader
    ready := s.ready ++
      (List.range' s.loader.imports.length
        (loader.imports.length - s.loader.imports.length)).map .import_ }

/-- Waits for an import. -/
def awaitImport (s : LoaderStage) (i : Nat) : LoaderStage :=
  s.waitUntil (isOver i) patience

/-- The loader changed by something that happens to it. -/
def happen (s : LoaderStage) (e : Loader.Event) : LoaderStage :=
  { s with loader := s.loader.after e }

end LoaderStage

/-- **How an import is asked for**: by a specifier, or by a request that is made already. -/
inductive Ask where
  | specifier (text : String) (referrer : Option Url) (a : Assertion) (bindings : Bindings)
  | request (r : ImportRequest)

/-- The event of an import coming in. -/
def Ask.event : Ask → Loader.Event
  | .specifier text referrer a bindings => .startImport text referrer a bindings
  | .request r => .submit r

/-- **A step.** -/
inductive LoaderStep where
  /-- Something happens to the loader. -/
  | happens (e : Loader.Event)
  | define (types : List String) (handler : Handler)
  /-- An import that is waited for. -/
  | importNow (ask : Ask)
  /-- An import under a name, to be waited for later. -/
  | start (name : String) (ask : Ask)
  | await (name : String)
  | abort (name : String)
  | advance (ms : Nat)
  | invalidate (url : String)

/-- **What a step gives.** -/
inductive LoaderResult where
  | nothing
  | descriptor (result : Except ImportError Descriptor)
  | outcome (result : Except ImportError Served) (states : List ImportState)
  | aborted
  | count (n : Nat)

namespace LoaderStage

/-- What an import has come to. -/
def answer (s : LoaderStage) (i : Nat) : LoaderResult :=
  match s.loader.imports[i]? with
  | some ⟨states, .done result⟩ => .outcome result states
  | some ⟨_, .dropped⟩ => .aborted
  | _ => .nothing

/-- Lets an import come in and waits for it; the number is that of the import. -/
def importNow (s : LoaderStage) (ask : Ask) : Nat × LoaderStage :=
  let i := s.loader.imports.length
  (i, (s.withImport (s.loader.after ask.event)).awaitImport i)

/-- **Runs one import** until it is over: what it came to, if it ended. -/
def runImport (s : LoaderStage) (ask : Ask) : Option (Except ImportError Served) × LoaderStage :=
  let (i, s) := s.importNow ask
  match s.answer i with
  | .outcome result _ => (some result, s)
  | _ => (none, s)

/-- **Takes a step.** -/
def step (s : LoaderStage) : LoaderStep → LoaderResult × LoaderStage
  | .happens e => (.nothing, (s.happen e).settle)
  | .define types handler =>
    let (result, loader) := s.loader.define types handler
    (.descriptor result, { s with loader := loader }.settle)
  | .importNow ask =>
    let (i, s) := s.importNow ask
    (s.answer i, s)
  | .start name ask =>
    let i := s.loader.imports.length
    (.nothing,
      { s.withImport (s.loader.after ask.event) with names := s.names.put name i }.settle)
  | .await name =>
    match s.names.get? name with
    | some i =>
      let s := s.awaitImport i
      (s.answer i, s)
    | none => (.nothing, s)
  | .abort name =>
    match s.names.get? name with
    | some i => (.nothing, (s.happen (.dropImport i)).settle)
    | none => (.nothing, s)
  | .advance ms => (.nothing, s.advanceTo (s.loader.now + ms) patience)
  | .invalidate url =>
    (.count (s.loader.flights.cache.entriesOf url).length, (s.happen (.invalidate url)).settle)

end LoaderStage

end TypedImport.Rehearsal
