import TypedImport.Import.Fault

/-!
# Errors of imports

An error of an import tells the phase that failed, the cause, and what the import was about: its URL,
its asserted type and, as far as it was known, the handler.
-/

namespace TypedImport

/-- **An error of an import.** -/
inductive ImportError where
  | assertion (specifier url type : String) (reason : AssertionFault)
  | handlerResolution (url type : String) (handler : Option HandlerId) (reason : ResolutionFault)
  | load (url type : String) (handler : Option HandlerId) (attempts : UInt32) (reason : LoadFault)
  | handlerExecution (url type : String) (handler : HandlerId) (fault : ExecutionFault)
  /-- The asset changed while a computation of it was in flight. -/
  | cacheConsistency (url type : String) (handler : HandlerId) (expected actual : String)
  | registry (reason : RegistryFault)
  deriving DecidableEq, Repr

namespace ImportError

/-- The sentence that tells an error. -/
def message : ImportError → String
  | .assertion specifier url type reason =>
    "AssertionError: " ++ reason.message ++ " (import '" ++ specifier ++ "', url: " ++ url ++
      ", type: '" ++ type ++ "')"
  | .handlerResolution url type _ reason =>
    "HandlerResolutionError: " ++ reason.message ++ " (url: " ++ url ++ ", type: '" ++ type ++ "')"
  | .load url _ _ attempts reason =>
    "LoadError: could not load " ++ url ++ " after " ++ toString attempts.toNat ++
      " attempt(s): " ++ reason.message
  | .handlerExecution url type handler fault =>
    "HandlerExecutionError: handler " ++ handler.text ++ " " ++ fault.kind.name ++ " for " ++ url ++
      " (type: '" ++ type ++ "'): " ++ fault.message
  | .cacheConsistency url type handler expected actual =>
    "CacheConsistencyError: " ++ url ++ " (type: '" ++ type ++ "', handler " ++ handler.text ++
      ") changed from " ++ expected ++ " to " ++ actual
  | .registry reason => "RegistryError: " ++ reason.message

/-- The URL that an error is about. -/
def url? : ImportError → Option String
  | .assertion _ url _ _ | .handlerResolution url _ _ _ | .load url _ _ _ _
  | .handlerExecution url _ _ _ | .cacheConsistency url _ _ _ _ => some url
  | .registry _ => none

/-- The asserted type that an error is about. -/
def type? : ImportError → Option String
  | .assertion _ _ type _ | .handlerResolution _ type _ _ | .load _ type _ _ _
  | .handlerExecution _ type _ _ | .cacheConsistency _ type _ _ _ => some type
  | .registry _ => none

/-- The handler that an error is about, if it was known. -/
def handler? : ImportError → Option HandlerId
  | .handlerResolution _ _ handler _ | .load _ _ handler _ _ => handler
  | .handlerExecution _ _ handler _ | .cacheConsistency _ _ handler _ _ => some handler
  | .assertion .. | .registry _ => none

/-- **The error with the handler that was resolved before the asset failed to load.** Every other error
is kept as it is. -/
def withHandler (id : HandlerId) : ImportError → ImportError
  | .load url type none attempts reason => .load url type (some id) attempts reason
  | e => e

end ImportError

end TypedImport
