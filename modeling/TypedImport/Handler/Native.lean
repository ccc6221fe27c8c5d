import TypedImport.Handler.Basic
import TypedImport.Table
import TypedImport.Text.Blank

/-!
# Handlers of the host

The host may have handlers of its own. It is asked two things: whether it supports a type for a media
type, and which handler it has for a type. A table of the host's handlers answers both from its rows.

**Answers are remembered.** The host is asked about a type and a media type once, up to ASCII case of
the media type, and asked once whether it has a handler for a type; the first answer stands. A handler
itself is asked for anew each time. What the host has been asked is kept in order.
-/

namespace TypedImport

/-- **What a host says about its handlers.** -/
structure NativeHost where
  supports : (type media : String) → Bool
  handlerFor : (type : String) → Option Handler

namespace NativeTable

/-- What a host offers for a type: a handler, and the media types it takes; none means every one. -/
structure Row where
  media : List String
  handler : Handler

end NativeTable

/-- **A table of a host's handlers by type.** -/
structure NativeTable where
  rows : Table String NativeTable.Row := []

namespace NativeTable

/-- Puts a handler in the row of a type. -/
def insert (t : NativeTable) (type : String) (media : List String) (handler : Handler) :
    NativeTable :=
  ⟨t.rows.put type ⟨media.map Text.lower, handler⟩⟩

/-- Whether there is a row for a type that takes a media type. -/
def supports (t : NativeTable) (type media : String) : Bool :=
  match t.rows.get? type with
  | some row => row.media.isEmpty || row.media.contains (Text.lower media)
  | none => false

/-- The handler in the row of a type. -/
def handlerFor (t : NativeTable) (type : String) : Option Handler :=
  (t.rows.get? type).map (·.handler)

/-- The table as what a host says. -/
def host (t : NativeTable) : NativeHost where
  supports := t.supports
  handlerFor := t.handlerFor

/-- **The usual table**: one handler, for JSON. -/
def usual (json : Handler) : NativeTable :=
  ({} : NativeTable).insert "json"
    ["application/json", "text/json", "application/manifest+json"] json

end NativeTable

/-- **A question to the host.** -/
inductive NativeQuestion where
  | supports (type media : String)
  | handlerFor (type : String)
  deriving DecidableEq, Repr

/-- **A host with the answers that are remembered.** -/
structure NativeMemo where
  host : NativeHost
  /-- By type and media type in lowercase, whether it is supported. -/
  available : Table (String × String) Bool := []
  /-- By type, whether there is a handler. -/
  offered : Table String Bool := []
  /-- The questions asked, the last one first. -/
  asked : List NativeQuestion := []

namespace NativeMemo

/-- The same answers in front of a host of which other things are true now. -/
def withHost (c : NativeMemo) (host : NativeHost) : NativeMemo :=
  { c with host := host }

/-- **Whether the host supports a type for a media type.** -/
def supports (c : NativeMemo) (type media : String) : Bool × NativeMemo :=
  let key := (type, Text.lower media)
  match c.available.get? key with
  | some answer => (answer, c)
  | none =>
    let answer := c.host.supports type media
    (answer,
      { c with
        available := c.available.put key answer
        asked := .supports type media :: c.asked })

/-- **Whether the host has a handler for a type.** -/
def offers (c : NativeMemo) (type : String) : Bool × NativeMemo :=
  match c.offered.get? type with
  | some answer => (answer, c)
  | none =>
    let answer := (c.host.handlerFor type).isSome
    (answer,
      { c with
        offered := c.offered.put type answer
        asked := .handlerFor type :: c.asked })

/-- The host's handler for a type. -/
def handler? (c : NativeMemo) (type : String) : Option Handler × NativeMemo :=
  (c.host.handlerFor type, { c with asked := .handlerFor type :: c.asked })

/-- How often the host was asked what it supports. -/
def supportsCount (c : NativeMemo) : Nat :=
  (c.asked.filter fun | .supports .. => true | .handlerFor _ => false).length

/-- How often the host was asked for a handler. -/
def handlerForCount (c : NativeMemo) : Nat :=
  (c.asked.filter fun | .supports .. => false | .handlerFor _ => true).length

end NativeMemo

end TypedImport
