import TypedImport.Config.Policy
import TypedImport.Handler.Failure
import TypedImport.Handler.Identity
import TypedImport.Text.Quoted
import TypedImport.Url.Basic

/-!
# What can go wrong in an import

The causes of an import's failure, phase by phase, and the words for each. The words name what was
given; the URL and the type are added where the cause becomes an error of an import.

**Foreign causes.** Each phase has a cause `described`, whose words come from outside the library.
-/

namespace TypedImport

/-- **What is wrong with an assertion.** -/
inductive AssertionFault where
  | unsupportedKey (key : String)
  | duplicateKey (key : String)
  | missingType
  | emptyType
  | emptyModulePath
  /-- An import for its effect alone has nothing to hand to a handler. -/
  | handlerWithoutBinding
  | emptyNames
  | described (text : String)
  deriving DecidableEq, Repr

/-- The words for a fault. -/
def AssertionFault.message : AssertionFault → String
  | .unsupportedKey key => "unsupported assertion key '" ++ key ++ "'"
  | .duplicateKey key => "duplicate assertion key '" ++ key ++ "'"
  | .missingType => "missing required 'type' key"
  | .emptyType => "'type' must not be empty"
  | .emptyModulePath => "'handler' module path must not be empty"
  | .handlerWithoutBinding => "a side-effect-only import cannot assert a handler"
  | .emptyNames => "named imports must list at least one non-empty name"
  | .described text => text

/-- **Why a specifier names no URL.** -/
inductive SpecifierFault where
  | empty
  /-- It is relative and there is nothing for it to be relative to. -/
  | noReferrer (specifier : String)
  | invalid (specifier : String) (fault : UrlFault)
  /-- It is an absolute path that no URL stands for. -/
  | notAFileUrl (specifier : String)
  deriving DecidableEq, Repr

/-- The words for a fault. -/
def SpecifierFault.message : SpecifierFault → String
  | .empty => "empty specifier"
  | .noReferrer specifier => "cannot resolve '" ++ specifier ++ "' without a referrer"
  | .invalid specifier fault => "cannot resolve '" ++ specifier ++ "': " ++ fault.message
  | .notAFileUrl specifier => "cannot convert '" ++ specifier ++ "' to a file url"

/-- **What is wrong with a handler module.** -/
inductive ModuleFault where
  | notInstantiated (failure : Failure)
  | noDefault
  | notCallable
  /-- The default export takes `found` parameters where a handler takes `expected`. -/
  | wrongArity (found expected : Nat)
  | invalidTypes
  deriving DecidableEq, Repr

/-- The words for a fault of the module at a path. -/
def ModuleFault.message (path : String) : ModuleFault → String
  | .notInstantiated failure => "cannot instantiate handler module '" ++ path ++ "': " ++ failure.line
  | .noDefault => "handler module '" ++ path ++ "' has no default export"
  | .notCallable => "default export of '" ++ path ++ "' is not callable"
  | .wrongArity found expected =>
    "default export of '" ++ path ++ "' takes " ++ toString found ++ " parameter(s), expected " ++
      toString expected ++ " (bytes, context)"
  | .invalidTypes => "'types' export of '" ++ path ++ "' must be a list of strings"

/-- **Why no handler was resolved.** -/
inductive ResolutionFault where
  | badModule (path : String) (fault : ModuleFault)
  | unsupportedType (name type : String) (supported : List String)
  | noHandler (type : String)
  /-- The host has a handler, but the policy does not ask it. -/
  | nativeNotAsked (type : String) (policy : Policy)
  | described (text : String)
  deriving DecidableEq, Repr

/-- The words for a fault. -/
def ResolutionFault.message : ResolutionFault → String
  | .badModule path fault => fault.message path
  | .unsupportedType name type supported =>
    "handler '" ++ name ++ "' does not support type '" ++ type ++ "' (supports: " ++
      Text.join ", " supported ++ ")"
  | .noHandler type =>
    "no handler registered for type '" ++ type ++ "' and no native handler available"
  | .nativeNotAsked type policy =>
    "no handler registered for type '" ++ type ++ "' (a native handler exists but policy is " ++
      policy.name ++ ")"
  | .described text => text

/-- **How a fetch fails.** Only a transient failure is worth another try. -/
inductive FetchFailureKind where
  | transient
  | notFound
  | permissionDenied
  | fatal
  deriving DecidableEq, Repr

/-- The words for a kind of failure. -/
def FetchFailureKind.name : FetchFailureKind → String
  | .transient => "transient error"
  | .notFound => "not found"
  | .permissionDenied => "permission denied"
  | .fatal => "fetch failed"

/-- **A failed fetch.** -/
structure FetchFailure where
  kind : FetchFailureKind
  message : String
  deriving DecidableEq, Repr

namespace FetchFailure

/-- The words for a failed fetch. -/
def text (f : FetchFailure) : String :=
  f.kind.name ++ ": " ++ f.message

/-- Whether another try may succeed. -/
def isTransient (f : FetchFailure) : Bool :=
  f.kind = .transient

end FetchFailure

/-- **Why an asset was not loaded.** -/
inductive LoadFault where
  | unresolved (fault : SpecifierFault)
  | fetch (failure : FetchFailure)
  | described (text : String)
  deriving DecidableEq, Repr

/-- The words for a fault. -/
def LoadFault.message : LoadFault → String
  | .unresolved fault => fault.message
  | .fetch failure => failure.text
  | .described text => text

/-- **How the run of a handler fails.** -/
inductive ExecutionKind where
  | failed
  | panicked
  | timedOut
  | invalidShape
  | cancelled
  deriving DecidableEq, Repr

/-- The words for a kind of failure, as they follow the handler. -/
def ExecutionKind.name : ExecutionKind → String
  | .failed => "failed"
  | .panicked => "panicked"
  | .timedOut => "timed out"
  | .invalidShape => "returned an invalid module shape"
  | .cancelled => "was cancelled"

/-- **What is wrong with a value that should be the exports of a module.** -/
inductive ShapeFault where
  /-- It is no object but something else, named in words. -/
  | notAnObject (kind : String)
  | emptyName
  deriving DecidableEq, Repr

/-- The words for a fault. -/
def ShapeFault.message : ShapeFault → String
  | .notAnObject kind => "expected an object of exports, got " ++ kind
  | .emptyName => "export names must not be empty"

/-- **Why a handler gave no exports.** -/
inductive ExecutionFault where
  | failed (failure : Failure)
  | panicked (message : String)
  | timedOut (ms : UInt64)
  | invalidShape (fault : ShapeFault)
  /-- The computation around the handler broke off with a message. -/
  | computationPanicked (message : String)
  | described (kind : ExecutionKind) (text : String) (detail : Option String)
  deriving DecidableEq, Repr

namespace ExecutionFault

def kind : ExecutionFault → ExecutionKind
  | .failed _ => .failed
  | .panicked _ | .computationPanicked _ => .panicked
  | .timedOut _ => .timedOut
  | .invalidShape _ => .invalidShape
  | .described kind _ _ => kind

/-- The words for a fault. -/
def message : ExecutionFault → String
  | .failed failure => failure.message
  | .panicked message => message
  | .timedOut ms => "no result after " ++ toString ms.toNat ++ " ms"
  | .invalidShape fault => fault.message
  | .computationPanicked message => "task <id> panicked with message " ++ Text.quoted message
  | .described _ text _ => text

/-- The full report of a failure; other faults have none. -/
def detail? : ExecutionFault → Option String
  | .failed failure => some failure.report
  | .described _ _ detail => detail
  | _ => none

end ExecutionFault

/-- **Why a default was not registered.** -/
inductive RegistryFault where
  | emptyType
  | unsupportedType (name type : String)
  | noTypes
  | alreadyInitialized
  | described (text : String)
  deriving DecidableEq, Repr

/-- The words for a fault. -/
def RegistryFault.message : RegistryFault → String
  | .emptyType => "type names must not be empty"
  | .unsupportedType name type => "handler '" ++ name ++ "' does not support type '" ++ type ++ "'"
  | .noTypes => "define requires at least one type"
  | .alreadyInitialized => "global handler registry is already initialized"
  | .described text => text

end TypedImport
