import TypedImport.Handler.Builtin

/-!
# Handlers written as data

A script says what a handler does at each call: answer with a value, with the number of the call or
with what it was told; fail; break off; wait first; or do something else at each call. With scripts a
loader can be rehearsed against slow, failing and changing handlers.
-/

namespace TypedImport

/-- **What a handler does when it is called.** -/
inductive Script where
  | returns (v : Value)
  /-- Exports the number of the call, from 1. -/
  | counts
  /-- Exports the bytes in hexadecimal and the context. -/
  | echoes
  | builtin (b : Builtin)
  | fails (failure : Failure)
  /-- Breaks off, while it is called or while it works. -/
  | panics (message : String) (whileCalled : Bool)
  | sleeps (ms : Nat) (next : Script)
  | waits (gate : String) (next : Script)
  /-- Call number `i` does as item `i` says; the last item stands for all further calls. -/
  | inTurn (steps : List Script)
  deriving Inhabited

namespace Script

/-- The exports of a handler that tells what it was told. -/
def echo (bytes : Bytes) (context : Context) : Value :=
  .object
    [("default", .string (Hex.ofBytes bytes)), ("encoding", .string context.encoding.name),
     ("mime", .string context.media), ("native", .bool context.nativeAvailable),
     ("type", .string context.assertedType), ("url", .string context.url)]

mutual

/-- The script that counts at the call after `nth` others. -/
def atCall (nth : Nat) : Script → Script
  | .inTurn steps => pick nth nth steps
  | s => s

/-- The script at a place of a list, the last one if there are too few. -/
def pick (nth : Nat) : Nat → List Script → Script
  | _, [] => .returns .null
  | _, [s] => atCall nth s
  | 0, s :: _ => atCall nth s
  | n + 1, _ :: rest => pick nth n rest

end

mutual

/-- The activity that a script describes. -/
def activity (nth : Nat) (bytes : Bytes) (context : Context) : Script → Activity
  | .returns v => .finish (.value v)
  | .counts => .finish (.value (.object [("default", .int (nth + 1))]))
  | .echoes => .finish (.value (echo bytes context))
  | .builtin b =>
    match b.run bytes context with
    | .ok v => .finish (.value v)
    | .error failure => .finish (.failed failure)
  | .fails failure => .finish (.failed failure)
  | .panics message _ => .finish (.panicked message)
  | .sleeps ms next => .sleep ms (activity nth bytes context next)
  | .waits gate next => .gate gate (activity nth bytes context next)
  | .inTurn steps => turn nth bytes context nth steps

/-- The activity of the script at a place of a list, of the last one if there are too few. -/
def turn (nth : Nat) (bytes : Bytes) (context : Context) : Nat → List Script → Activity
  | _, [] => .finish (.value .null)
  | _, [s] => activity nth bytes context s
  | 0, s :: _ => activity nth bytes context s
  | n + 1, _ :: rest => turn nth bytes context n rest

end

/-- **A call of a scripted handler.** -/
def call (script : Script) (nth : Nat) (bytes : Bytes) (context : Context) : Call :=
  match script.atCall nth with
  | .panics message true => .panicked message
  | s => .started (s.activity nth bytes context)

/-- The handler that a script describes. -/
def handler (script : Script) (id : HandlerId) (name : String) (types : List String) : Handler where
  id := id
  name := name
  types := TypeSet.ofList types
  call := script.call

end Script

end TypedImport
