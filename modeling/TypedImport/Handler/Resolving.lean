import TypedImport.Handler.Resolver

/-!
# Resolving side by side

Making the module of a path may take a while, and other imports may want a handler meanwhile, from the same
path too. So resolving a handler goes in steps, and the steps of one attempt may fall between those of
others: it looks at what is kept for the path, it has the module made if nothing is, and when the module
has come it settles what the path gives.

**Modules that come from anywhere.** Here the module of a path is whatever comes when an attempt settles:
it may be another one each time, or none. An attempt that is left to itself and given the module that a
table has for the path comes to what `Resolver.resolve` says.
-/

namespace TypedImport

namespace Resolving

/-- **How far an attempt to resolve a handler has come.** -/
inductive Stage where
  | begun
  /-- It has looked, and nothing was kept for its path. -/
  | missed
  /-- The module of its path is being made. -/
  | making
  /-- It has a handler, whose types have not been looked at, or there is none for it. -/
  | found (candidate : Except ImportError Descriptor)
  | dropped

/-- **An attempt to resolve a handler.** -/
structure Attempt where
  reference : AssertedHandler
  url : String
  type : String
  media : String
  stage : Stage := .begun

/-- What an attempt has come to, if it has: a handler that takes the type, or an error. -/
def Attempt.result? (a : Attempt) : Option (Except ImportError Descriptor) :=
  match a.stage with
  | .found candidate => some (candidate.bind (Resolver.accepted a.url a.type))
  | _ => none

/-- **Something that happens while handlers are resolved.** -/
inductive Event where
  | enter (reference : AssertedHandler) (url type media : String)
  /-- An attempt goes on as far as it can by itself. -/
  | turn (number : Nat)
  /-- The module that an attempt had made has come, or could not be made. -/
  | settle (number : Nat) (result : Except Failure HandlerModule)
  | drop (number : Nat)
  | define (types : List String) (handler : Handler)
  | changeHost (host : NativeHost)

end Resolving

/-- **A resolver and the attempts that it serves.** An attempt has the number of its place. -/
structure Resolving where
  resolver : Resolver
  attempts : List Resolving.Attempt := []
  /-- The attempts that had a module made, each with the path, the last one first. -/
  asked : List (Nat × String) := []

namespace Resolving

/-- Writes how far an attempt has come. -/
def put (s : Resolving) (number : Nat) (a : Attempt) (stage : Stage) : Resolving :=
  { s with attempts := s.attempts.set number { a with stage := stage } }

/-- **A turn of an attempt.** -/
def turn (s : Resolving) (number : Nat) (a : Attempt) : Resolving :=
  match a.stage, a.reference with
  | .begun, .module path =>
    match s.resolver.memo.find? path with
    | some d => s.put number a (.found (.ok d))
    | none => s.put number a .missed
  | .begun, reference =>
    let (candidate, resolver) := s.resolver.candidate reference a.url a.type a.media
    { s with resolver := resolver }.put number a (.found candidate)
  | .missed, .module path => { s.put number a .making with asked := (number, path) :: s.asked }
  | _, _ => s

/-- **The module of an attempt has come**, or could not be made. -/
def settle (s : Resolving) (number : Nat) (a : Attempt) (result : Except Failure HandlerModule) :
    Resolving :=
  match a.stage, a.reference with
  | .making, .module path =>
    let (candidate, resolver) := s.resolver.settleModule path a.url a.type result
    { s with resolver := resolver }.put number a (.found candidate)
  | _, _ => s

/-- An attempt is given up; one that has come to its end has nothing to give up. -/
def drop (s : Resolving) (number : Nat) (a : Attempt) : Resolving :=
  match a.stage with
  | .found _ => s
  | _ => s.put number a .dropped

/-- The state after something has happened. -/
def after (s : Resolving) : Event → Resolving
  | .enter reference url type media =>
    { s with attempts := s.attempts ++ [{ reference, url, type, media }] }
  | .turn number => (s.attempts[number]?.map (s.turn number)).getD s
  | .settle number result => (s.attempts[number]?.map (s.settle number · result)).getD s
  | .drop number => (s.attempts[number]?.map (s.drop number)).getD s
  | .define types handler => { s with resolver := (s.resolver.define types handler).2 }
  | .changeHost host =>
    { s with resolver := { s.resolver with native := s.resolver.native.withHost host } }

/-- **The state after a series of events.** -/
def run (s : Resolving) (events : List Event) : Resolving :=
  events.foldl after s

end Resolving

end TypedImport
