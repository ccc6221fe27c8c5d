import TypedImport.Handler.Basic

/-!
# Descriptors

A descriptor is what an import is given when its handler is resolved: the handler itself, the identity
under which its records are kept, where it came from, and the types that it takes in this place.

**Identity and types by origin.** An inline or a native handler keeps its own of both. A default of the
registry keeps its identity and takes, besides its declared types, those it is the default of. The
handler of a module has an identity derived from the path, and the types that the module gives it.
-/

namespace TypedImport

/-- **A resolved handler.** -/
structure Descriptor where
  id : HandlerId
  origin : Origin
  types : TypeSet
  handler : Handler
  modulePath : Option String := none
  /-- The number of a descriptor that is kept and handed out again, among those of its origin; none for
  one that is made for a single import. -/
  kept : Option Nat := none

namespace Descriptor

/-- The descriptor of a handler given with the import. -/
def inline (handler : Handler) : Descriptor where
  id := handler.id
  origin := .inline
  types := handler.types
  handler := handler

/-- The descriptor of default number `number` of a registry, for the types listed. -/
def registry (number : Nat) (handler : Handler) (listed : List String) : Descriptor where
  id := handler.id
  origin := .registry
  types := listed.foldl (fun set t => TypeSet.insert t set) handler.types
  handler := handler
  kept := some number

/-- The descriptor of module number `number` of a loader. -/
def external (number : Nat) (path : String) (handler : Handler) (types : TypeSet) : Descriptor where
  id := HandlerId.derive .externalModule path
  origin := .externalModule
  types := types
  handler := handler
  modulePath := some path
  kept := some number

/-- The descriptor of a handler of the host. -/
def native (handler : Handler) : Descriptor where
  id := handler.id
  origin := .native
  types := handler.types
  handler := handler

/-- Whether a descriptor takes a type. -/
def supports (d : Descriptor) (t : String) : Bool :=
  d.types.admits t

end Descriptor

end TypedImport
