import TypedImport.Handler.Encoding
import TypedImport.Handler.Failure
import TypedImport.Handler.Identity
import TypedImport.Handler.TypeSet
import TypedImport.Json.Value

/-!
# Handlers

A handler turns the bytes of an asset into a value. It is a name, an identity, the types it declares,
and what happens when it is called.

**What a call is.** A call either breaks off at once or starts an activity: a finite series of waits, for
some time or for a gate to open, and then an end, which is a value, a failure or a break. What a call
does may depend on how often the handler was called before.
-/

namespace TypedImport

/-- **What a handler is told about an asset.** -/
structure Context where
  url : String
  assertedType : String
  media : String
  encoding : Encoding
  /-- Whether the host has a handler of its own for this type and media type. -/
  nativeAvailable : Bool
  deriving DecidableEq, Repr

/-- The words of a break whose payload is no text. -/
def unreadablePanic : String := "handler panicked"

/-- **How a handler's work ends.** -/
inductive Outcome where
  | value (v : Value)
  | failed (failure : Failure)
  | panicked (message : String)
  deriving Inhabited

/-- **The work of a handler** once it has started. -/
inductive Activity where
  | finish (outcome : Outcome)
  /-- Waits for some milliseconds. -/
  | sleep (ms : Nat) (next : Activity)
  /-- Waits until a gate is open. -/
  | gate (name : String) (next : Activity)
  deriving Inhabited

/-- How many waits there are in an activity. -/
def Activity.waits : Activity → Nat
  | .finish _ => 0
  | .sleep _ next | .gate _ next => next.waits + 1

/-- What an activity comes to once all its waits are over. -/
def Activity.outcome : Activity → Outcome
  | .finish o => o
  | .sleep _ next | .gate _ next => next.outcome

/-- **What a call gives**: a break before there is any work, or work. -/
inductive Call where
  | panicked (message : String)
  | started (activity : Activity)
  deriving Inhabited

/-- What a call comes to once all waits are over. -/
def Call.outcome : Call → Outcome
  | .panicked message => .panicked message
  | .started activity => activity.outcome

/-- **A handler.** -/
structure Handler where
  id : HandlerId
  name : String
  /-- The declared types; none means every type. -/
  types : TypeSet
  /-- The call after `nth` others. -/
  call : (nth : Nat) → Bytes → Context → Call

namespace Handler

/-- Whether a handler takes a type. -/
def supports (h : Handler) (t : String) : Bool :=
  h.types.admits t

/-- A handler that answers without waiting. -/
def ofFunction (id : HandlerId) (name : String) (types : List String)
    (f : Bytes → Context → Except Failure Value) : Handler where
  id := id
  name := name
  types := TypeSet.ofList types
  call _ bytes context :=
    match f bytes context with
    | .ok v => .started (.finish (.value v))
    | .error failure => .started (.finish (.failed failure))

/-- The same handler declaring other types. -/
def withTypes (h : Handler) (types : List String) : Handler :=
  { h with types := TypeSet.ofList types }

end Handler

/-- **What an activity waits for.** -/
inductive Wait where
  | till (time : Nat)
  | gate (name : String)
  deriving DecidableEq, Repr

/-- An activity that has begun: what it waits for, if anything, and what comes after. -/
structure Running where
  wait : Option Wait := none
  next : Activity

namespace Running

/-- Goes on until the next wait that is not over yet; `opened` tells the open gates. -/
def advance (now : Nat) (opened : String → Bool) : Activity → Running ⊕ Outcome
  | .finish outcome => .inr outcome
  | .sleep ms next => if ms = 0 then advance now opened next else .inl ⟨some (.till (now + ms)), next⟩
  | .gate name next => if opened name then advance now opened next else .inl ⟨some (.gate name), next⟩

def isOver (now : Nat) (opened : String → Bool) : Wait → Bool
  | .till time => time ≤ now
  | .gate name => opened name

/-- Whether an activity can go on. -/
def isReady (now : Nat) (opened : String → Bool) (r : Running) : Bool :=
  match r.wait with
  | none => true
  | some wait => isOver now opened wait

/-- **One turn of an activity**: it goes on if its wait is over. -/
def poll (now : Nat) (opened : String → Bool) (r : Running) : Running ⊕ Outcome :=
  if r.isReady now opened then advance now opened r.next else .inl r

/-- The time until which an activity sleeps. -/
def wakeTime? (r : Running) : Option Nat :=
  match r.wait with
  | some (.till time) => some time
  | _ => none

end Running

end TypedImport
