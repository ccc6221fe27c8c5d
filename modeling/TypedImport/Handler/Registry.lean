import TypedImport.Handler.Descriptor
import TypedImport.Import.Fault
import TypedImport.Table
import TypedImport.Text.Blank

/-!
# The registry of default handlers

A registry says which handler is the default for which types. A definition lists types for a handler;
of two definitions that list a type the later one counts.

**Two views.** `byType` finds the default of a type. `entries` tells the definitions in the order they
were made, each with the types that no later one has taken; a definition that has lost all its types is
no longer there.

**Snapshots.** A snapshot is the list of the entries at some moment. A walk goes through a snapshot from the
front; every walk has a place of its own.
-/

namespace TypedImport

namespace Registry

/-- **A definition** and the types that it still is the default of. -/
structure Entry where
  types : List String
  descriptor : Descriptor

end Registry

/-- **A registry.** -/
structure Registry where
  byType : Table String Descriptor := []
  entries : List Registry.Entry := []
  /-- How many definitions were made. -/
  defined : Nat := 0
  /-- A default keeps the identity of its handler. -/
  identity : ∀ t d, byType.get? t = some d → d.id = d.handler.id := by exact fun _ _ h => nomatch h

namespace Registry

/-- The registry without defaults. -/
def empty : Registry := {}

/-- The types that a definition lists for a handler, trimmed and each once, after those in `listed`. -/
def readTypes (handler : Handler) (listed : List String) :
    List String → Except RegistryFault (List String)
  | [] => if listed.isEmpty then .error .noTypes else .ok listed
  | t :: rest =>
    let t := Text.trim t
    if t.isEmpty then .error .emptyType
    else if !handler.supports t then .error (.unsupportedType handler.name t)
    else readTypes handler (if listed.contains t then listed else listed ++ [t]) rest

/-- An entry without the types that another definition lists. -/
def Entry.without (entry : Entry) (listed : List String) : Entry :=
  { entry with types := entry.types.filter fun t => !listed.contains t }

/-- The entries after a definition. -/
def entriesAfter (entries : List Entry) (listed : List String) (descriptor : Descriptor) :
    List Entry :=
  ((entries.map fun e => e.without listed).filter fun e => !e.types.isEmpty) ++ [⟨listed, descriptor⟩]

/-- The registry after a definition for the types listed. -/
def add (r : Registry) (listed : List String) (handler : Handler) : Registry where
  byType := listed.foldl (fun table t => table.put t (.registry r.defined handler listed)) r.byType
  entries := entriesAfter r.entries listed (.registry r.defined handler listed)
  defined := r.defined + 1
  identity t d h := by
    rw [Table.get?_foldl_put] at h
    split at h
    · cases h
      rfl
    · exact r.identity t d h

/-- **Makes a handler the default of types**, all of them or, if one is no type for it, none. -/
def define (r : Registry) (types : List String) (handler : Handler) :
    Except RegistryFault (Descriptor × Registry) :=
  match readTypes handler [] types with
  | .error fault => .error fault
  | .ok listed => .ok (.registry r.defined handler listed, r.add listed handler)

/-- The default of a type. -/
def forType? (r : Registry) (t : String) : Option Descriptor :=
  r.byType.get? t

/-- For how many types there is a default. -/
def size (r : Registry) : Nat :=
  r.byType.length

/-- **Fills the place that a whole program shares** with a registry. It is filled once. -/
def share (place : Option Registry) (r : Registry) : Except RegistryFault Registry :=
  match place with
  | none => .ok r
  | some _ => .error .alreadyInitialized

/-- **A walk through a snapshot.** -/
structure Walk where
  snapshot : List Entry
  position : Nat := 0

namespace Walk

/-- The entry that a walk comes to, if it is not at the end, and the walk from then on. -/
def next (w : Walk) : Option Entry × Walk :=
  match w.snapshot[w.position]? with
  | none => (none, w)
  | some entry => (some entry, { w with position := w.position + 1 })

/-- How many entries a walk has not come to. -/
def left (w : Walk) : Nat :=
  w.snapshot.length - w.position

end Walk

end Registry

end TypedImport
