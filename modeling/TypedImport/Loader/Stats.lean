import TypedImport.Number.Binary64

/-!
# Statistics

What a loader has done so far, in numbers and in one line. Numbers are counted, and words are shown
(`Stats.words`): a counter that does not fit a word any more has begun again at zero.
-/

namespace TypedImport

/-- **The counters of a loader**, as the numbers that they have counted to. -/
structure Stats where
  imports : Nat := 0
  hits : Nat := 0
  joined : Nat := 0
  invocations : Nat := 0
  failures : Nat := 0
  bytes : Nat := 0
  deriving DecidableEq, Repr

/-- **The counters as they are shown**, in words. -/
structure Stats.Words where
  imports : UInt64
  hits : UInt64
  joined : UInt64
  invocations : UInt64
  failures : UInt64
  bytes : UInt64
  deriving DecidableEq, Repr

namespace Stats

/-- **What is shown of the counters**: of each number what fits a word. -/
def words (s : Stats) : Words where
  imports := .ofNat s.imports
  hits := .ofNat s.hits
  joined := .ofNat s.joined
  invocations := .ofNat s.invocations
  failures := .ofNat s.failures
  bytes := .ofNat s.bytes

/-- A finite number that is not negative, with two places; what lies halfway goes to the even digit. -/
def twoPlaces (x : Binary64) : String :=
  let (num, den) := x.ratio
  let hundredths := Binary64.roundDiv (num * 100) den
  let part := hundredths % 100
  toString (hundredths / 100) ++ "." ++ (if part < 10 then "0" else "") ++ toString part

/-- Bytes in a kilobyte. -/
def kilobyte : Nat := 1024

/-- Bytes in a megabyte. -/
def megabyte : Nat := 1024 * 1024

/-- An amount of bytes, in the largest unit that it reaches. -/
def bytesText (n : Nat) : String :=
  if megabyte ≤ n then twoPlaces (.div (.ofNat n) (.ofNat megabyte)) ++ " MB"
  else if kilobyte ≤ n then twoPlaces (.div (.ofNat n) (.ofNat kilobyte)) ++ " KB"
  else toString n ++ " B"

/-- The line that words are shown in. -/
def Words.summary (w : Words) : String :=
  "Imports: " ++ toString w.imports ++ ", Cache hits: " ++ toString w.hits ++
    ", Joined: " ++ toString w.joined ++ ", Invocations: " ++ toString w.invocations ++
    ", Failed: " ++ toString w.failures ++ ", Bytes loaded: " ++ bytesText w.bytes.toNat

/-- **The line that sums up the counters.** -/
def summary (s : Stats) : String :=
  s.words.summary

end Stats

end TypedImport
