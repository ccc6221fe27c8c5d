/-!
# The states of an import

An import is pending, then its handler is resolved, then its asset is loaded; then its record is found
ready or a handler is run for it, and it ends completed. From any state after the first it may fail.
-/

namespace TypedImport

/-- **The state of an import.** -/
inductive ImportState where
  | pending
  | resolvingHandler
  | loadingSource
  | invoking
  | cacheHit
  | completed
  | failed
  deriving DecidableEq, Repr

namespace ImportState

def name : ImportState → String
  | .pending => "pending"
  | .resolvingHandler => "resolving-handler"
  | .loadingSource => "loading-source"
  | .invoking => "invoking"
  | .cacheHit => "cache-hit"
  | .completed => "completed"
  | .failed => "failed"

/-- Whether an import stays in a state. -/
def isTerminal : ImportState → Bool
  | .completed | .failed => true
  | _ => false

/-- All states, in the order in which an import may go through them. -/
def all : List ImportState :=
  [pending, resolvingHandler, loadingSource, invoking, cacheHit, completed, failed]

end ImportState

end TypedImport
