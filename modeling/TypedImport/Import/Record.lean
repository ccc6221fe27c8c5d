import TypedImport.Import.Fault
import TypedImport.Json.Value

/-!
# Records

What an import gives: the exports that a handler made of an asset, with the key under which they are
kept and the fingerprint of the content they were made of.
-/

namespace TypedImport

/-- **What a record is of**: an asset, read as a type, by a handler. -/
structure CacheKey where
  url : String
  handler : HandlerId
  type : String
  deriving DecidableEq, Repr

def CacheKey.text (key : CacheKey) : String :=
  key.url ++ " [" ++ key.type ++ "] via " ++ key.handler.text

/-- The name of the export that stands for the module. -/
def defaultExport : String := "default"

/-- **A record.** -/
structure Record where
  exports : Fields
  origin : Origin
  key : CacheKey
  fingerprint : String

namespace Record

/-- The handler that made the record. -/
def handler (r : Record) : HandlerId :=
  r.key.handler

/-- The export of a name. -/
def get? (r : Record) (name : String) : Option Value :=
  r.exports.get? name

/-- Whether there is an export of a name. -/
def has (r : Record) (name : String) : Bool :=
  (r.get? name).isSome

/-- The default export. -/
def default? (r : Record) : Option Value :=
  r.get? defaultExport

/-- The exports other than the default one, in the order of their names. -/
def named (r : Record) : Fields :=
  r.exports.filter fun e => e.1 ≠ defaultExport

/-- All exports as one value. -/
def namespaceValue (r : Record) : Value :=
  .object r.exports

end Record

/-- **The exports that a value is**: an object without an empty name. -/
def Value.exports? : Value → Except ShapeFault Fields
  | .object fields => if fields.any fun f => f.1.isEmpty then .error .emptyName else .ok fields
  | v => .error (.notAnObject v.kind)

end TypedImport
