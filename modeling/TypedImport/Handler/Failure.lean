import TypedImport.Text.Split

/-!
# Failures of handlers

A handler or a module fails with a message and the messages of its causes, the nearest first.

**Three texts.** The message alone; the whole chain on one line, parted by colons; and the full report,
in which the causes follow on lines of their own, numbered if there are several.
-/

namespace TypedImport

/-- **A failure and its causes.** -/
structure Failure where
  message : String
  causes : List String := []
  deriving DecidableEq, Repr

namespace Failure

/-- The chain on one line. -/
def line (f : Failure) : String :=
  Text.join ": " (f.message :: f.causes)

/-- A cause with a label before its first line and an indentation before the others. -/
def indented (label indent cause : String) : String :=
  label ++ Text.join ("\n" ++ indent) (Text.splitOn '\n' cause)

/-- A number, right-aligned in five columns. -/
def numberLabel (n : Nat) : String :=
  let digits := toString n
  String.ofList (List.replicate (5 - digits.length) ' ') ++ digits ++ ": "

/-- The causes, a line or more each. -/
def causeLines : List String → List String
  | [] => []
  | [cause] => [indented "    " "    " cause]
  | causes => causes.mapIdx fun i cause => indented (numberLabel i) "       " cause

/-- **The full report.** -/
def report (f : Failure) : String :=
  if f.causes.isEmpty then f.message
  else f.message ++ "\n\nCaused by:\n" ++ Text.join "\n" (causeLines f.causes)

end Failure

end TypedImport
