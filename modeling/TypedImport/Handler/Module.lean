import TypedImport.Handler.Descriptor
import TypedImport.Import.Fault
import TypedImport.Import.Record
import TypedImport.Table

/-!
# Handler modules

A handler may come from a module that is named by a path. The module is made when it is first needed;
its default export must be a function of the bytes and the context, and it may export the types that it
takes. Once a module has been found good, what was made of it is kept for its path.

**Two steps.** Making a module may take a while, and other imports may ask for it meanwhile. `find?` is
the first step and tells what is kept; `settle` is the last one and keeps the first good module only.
-/

namespace TypedImport

/-- **An export of a handler module.** -/
inductive ModuleExport where
  | callable (handler : Handler) (arity : Nat)
  | value (v : Value)

/-- **A handler module.** -/
structure HandlerModule where
  exports : Table String ModuleExport := []

namespace HandlerModule

/-- How many parameters a handler takes. -/
def handlerArity : Nat := 2

/-- The name of the export that lists types. -/
def typesExport : String := "types"

/-- The module with an export more. -/
def withExport (m : HandlerModule) (name : String) (e : ModuleExport) : HandlerModule :=
  ⟨m.exports.put name e⟩

/-- The module with a handler and nothing else. -/
def ofHandler (handler : Handler) : HandlerModule :=
  ({} : HandlerModule).withExport defaultExport (.callable handler handlerArity)

def get? (m : HandlerModule) (name : String) : Option ModuleExport :=
  m.exports.get? name

/-- The handler that a module exports. -/
def handler (m : HandlerModule) : Except ModuleFault Handler :=
  match m.get? defaultExport with
  | some (.callable handler arity) =>
    if arity = handlerArity then .ok handler else .error (.wrongArity arity handlerArity)
  | some (.value _) => .error .notCallable
  | none => .error .noDefault

/-- The texts of a list of values, if all are texts. -/
def strings? : List Value → Option (List String)
  | [] => some []
  | v :: rest => do
    let s ← v.string?
    let rest ← strings? rest
    return s :: rest

/-- The types that a module takes, those of its handler if it exports none. -/
def types (m : HandlerModule) (handler : Handler) : Except ModuleFault TypeSet :=
  match m.get? typesExport with
  | none => .ok handler.types
  | some (.value (.array items)) =>
    match strings? items with
    | some types => .ok (TypeSet.ofList types)
    | none => .error .invalidTypes
  | some _ => .error .invalidTypes

/-- **The handler and the types of a module**, if it is a good one. -/
def verify (m : HandlerModule) : Except ModuleFault (Handler × TypeSet) :=
  match m.handler with
  | .error fault => .error fault
  | .ok handler =>
    match m.types handler with
    | .error fault => .error fault
    | .ok types => .ok (handler, types)

end HandlerModule

/-- **The modules that can be made**, by path: a module, or how making it fails. -/
structure ModuleTable where
  modules : Table String (Except Failure HandlerModule) := []
  /-- How many modules were made. -/
  instantiated : Nat := 0

namespace ModuleTable

/-- Says what a path gives from now on. -/
def register (t : ModuleTable) (path : String) (result : Except Failure HandlerModule) :
    ModuleTable :=
  { t with modules := t.modules.put path result }

/-- **Makes the module of a path.** -/
def instantiate (t : ModuleTable) (path : String) : Except Failure HandlerModule × ModuleTable :=
  match t.modules.get? path with
  | none => (.error ⟨"Cannot find handler module '" ++ path ++ "'", []⟩, t)
  | some (.error failure) => (.error failure, t)
  | some (.ok m) => (.ok m, { t with instantiated := t.instantiated + 1 })

end ModuleTable

/-- **What was made of good modules**, by path. -/
abbrev ModuleMemo := Table String Descriptor

namespace ModuleMemo

/-- What is kept for a path. -/
def find? (memo : ModuleMemo) (path : String) : Option Descriptor :=
  Table.get? memo path

/-- What a good module gives for a path: what is kept for it already, or else what is kept now. -/
def keep (memo : ModuleMemo) (path : String) (handler : Handler) (types : TypeSet) :
    Descriptor × ModuleMemo :=
  match memo.find? path with
  | some d => (d, memo)
  | none =>
    let d := Descriptor.external memo.length path handler types
    (d, Table.put memo path d)

/-- **What the attempt to make a module gives.** -/
def settle (memo : ModuleMemo) (path : String) (result : Except Failure HandlerModule) :
    Except ModuleFault Descriptor × ModuleMemo :=
  match result with
  | .error failure => (.error (.notInstantiated failure), memo)
  | .ok m =>
    match m.verify with
    | .error fault => (.error fault, memo)
    | .ok (handler, types) =>
      let (d, memo) := memo.keep path handler types
      (.ok d, memo)

end ModuleMemo

end TypedImport
