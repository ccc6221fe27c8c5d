/-!
# Styled text

A line for a terminal: pieces of text, each in a style. A terminal is told of a style by the codes
before and after a piece; without the codes the text is the same.
-/

namespace TypedImport.CommandLine

/-- **How a piece of text stands out.** -/
inductive Style where
  | plain
  | error
  | success
  | link
  | faint
  deriving DecidableEq, Repr

def Style.code (n : Nat) : String :=
  "\x1b[" ++ toString n ++ "m"

/-- A text between the codes of a style. -/
def Style.paint : Style → String → String
  | .plain, s => s
  | .error, s => code 1 ++ code 31 ++ s ++ code 39 ++ code 0
  | .success, s => code 1 ++ code 32 ++ s ++ code 39 ++ code 0
  | .link, s => code 36 ++ s ++ code 39
  | .faint, s => code 2 ++ s ++ code 0

/-- **A line of pieces in styles.** -/
structure Styled where
  pieces : List (Style × String)
  deriving DecidableEq, Repr

namespace Styled

/-- The text without codes. -/
def text (line : Styled) : String :=
  String.join (line.pieces.map (·.2))

/-- The text with the codes of its styles. -/
def painted (line : Styled) : String :=
  String.join (line.pieces.map fun piece => piece.1.paint piece.2)

end Styled

end TypedImport.CommandLine
