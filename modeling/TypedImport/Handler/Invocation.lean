import TypedImport.Handler.Descriptor
import TypedImport.Import.Error
import TypedImport.Import.Record
import TypedImport.Source.Asset

/-!
# Running handlers

A handler is called with an asset and has a limited time to answer. Whatever it does, the call ends in
a record or in an error of the import: it may break off when it is called or while it works, fail, answer
with something that is no module, or take too long.

**Two modes.** The handler of an inline descriptor works in the place of its caller, turn by turn. Any
other works as a task of its own, and the caller waits for what the task hands over.
-/

namespace TypedImport

/-- What a handler is told about an asset of an import. -/
def Asset.context (asset : Asset) (type : String) : Context where
  url := asset.url.text
  assertedType := type
  media := asset.media
  encoding := asset.encoding
  nativeAvailable := asset.nativeAvailable

/-- **How a call ends** for the one who called. -/
inductive CallEnd where
  | outcome (o : Outcome)
  | timedOut

/-- **A call under way**, with the time at which it is given up. -/
inductive Work where
  | inPlace (running : Running) (deadline : Nat)
  /-- The task's activity, or the outcome that it hands over. -/
  | spawned (task : Running ⊕ Outcome) (deadline : Nat)

namespace Work

/-- A call that starts to work now. -/
def start (origin : Origin) (activity : Activity) (now timeout : Nat) : Work :=
  match origin with
  | .inline => .inPlace ⟨none, activity⟩ (now + timeout)
  | _ => .spawned (.inl ⟨none, activity⟩) (now + timeout)

/-- The time at which a call is given up. -/
def deadline : Work → Nat
  | .inPlace _ d | .spawned _ d => d

/-- Whether a task can go on. -/
def taskIsReady (now : Nat) (opened : String → Bool) : Work → Bool
  | .spawned (.inl running) _ => running.isReady now opened
  | _ => false

/-- **A turn of the handler's task.** -/
def pollTask (now : Nat) (opened : String → Bool) : Work → Work
  | .spawned (.inl running) d => .spawned (running.poll now opened) d
  | w => w

/-- Whether the caller can go on. -/
def isReady (now : Nat) (opened : String → Bool) : Work → Bool
  | .inPlace running d => running.isReady now opened || d ≤ now
  | .spawned (.inl _) d => d ≤ now
  | .spawned (.inr _) _ => true

/-- Waits on, unless the time is over. -/
def orTimeout (now : Nat) (w : Work) : Work ⊕ CallEnd :=
  if w.deadline ≤ now then .inr .timedOut else .inl w

/-- **A turn of the caller.** The handler is looked at first, the time only if it has no outcome. -/
def poll (now : Nat) (opened : String → Bool) : Work → Work ⊕ CallEnd
  | .inPlace running d =>
    match running.poll now opened with
    | .inl running => orTimeout now (.inPlace running d)
    | .inr o => .inr (.outcome o)
  | .spawned (.inl running) d => orTimeout now (.spawned (.inl running) d)
  | .spawned (.inr o) _ => .inr (.outcome o)

/-- The next time at which something may happen without anybody else. -/
def nextTime : Work → Nat
  | .inPlace running d => (running.wakeTime?.map (min · d)).getD d
  | .spawned (.inl running) d => (running.wakeTime?.map (min · d)).getD d
  | .spawned (.inr _) d => d

/-- One round at a time: the task, if there is one, and then the caller. -/
def round (now : Nat) (opened : String → Bool) (w : Work) : Work ⊕ CallEnd :=
  (w.pollTask now opened).poll now opened

/-- **A call left to itself**: how it ends and when, in at most so many rounds. -/
def runAlone (opened : String → Bool) (w : Work) (now : Nat) : Nat → CallEnd × Nat
  | 0 => (.timedOut, w.deadline)
  | rounds + 1 =>
    match w.round now opened with
    | .inr e => (e, now)
    | .inl w => w.runAlone opened w.nextTime rounds

end Work

namespace Invoke

/-- What the end of a call comes to: exports, or what went wrong. -/
def exports (timeout : UInt64) : CallEnd → Except ExecutionFault Fields
  | .outcome (.value v) =>
    match v.exports? with
    | .ok fields => .ok fields
    | .error fault => .error (.invalidShape fault)
  | .outcome (.failed failure) => .error (.failed failure)
  | .outcome (.panicked message) => .error (.panicked message)
  | .timedOut => .error (.timedOut timeout)

/-- The error of a call under a key. -/
def error (d : Descriptor) (key : CacheKey) (fault : ExecutionFault) : ImportError :=
  .handlerExecution key.url key.type d.id fault

/-- **The record that a call gives**, or the error of the import. -/
def record (timeout : UInt64) (d : Descriptor) (asset : Asset) (key : CacheKey) (e : CallEnd) :
    Except ImportError Record :=
  match exports timeout e with
  | .ok exports => .ok ⟨exports, d.origin, key, asset.fingerprint⟩
  | .error fault => .error (error d key fault)

/-- **A call left to itself**: what it gives, and how long it takes. `nth` calls were made before. -/
def alone (timeout : UInt64) (d : Descriptor) (asset : Asset) (key : CacheKey) (nth : Nat)
    (opened : String → Bool) : Except ImportError Record × Nat :=
  match d.handler.call nth asset.bytes (asset.context key.type) with
  | .panicked message => (.error (error d key (.panicked message)), 0)
  | .started activity =>
    let (e, time) :=
      (Work.start d.origin activity 0 timeout.toNat).runAlone opened 0 (activity.waits + 2)
    (record timeout d asset key e, time)

end Invoke

end TypedImport
