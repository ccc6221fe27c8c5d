import TypedImport.Config.Basic
import TypedImport.Import.Error
import TypedImport.Source.Asset

/-!
# Trying a fetch again

A transient failure is tried again after a wait, as often as the configuration allows; any other failure
is final. `Retry.after` is the decision after one failure, and `Retry.run` what a whole series of fetches
comes to.
-/

namespace TypedImport

/-- **What follows a failed fetch.** -/
inductive Retry where
  /-- Another fetch, after some milliseconds. -/
  | again (wait : UInt64)
  /-- Nothing; the number of fetches is told. -/
  | giveUp (attempts : UInt32)
  deriving DecidableEq, Repr

namespace Retry

/-- **The decision after a failure** of attempt number `attempt`, counted from 0. -/
def after (config : Config) (attempt : UInt32) (failure : FetchFailure) : Retry :=
  if failure.isTransient && attempt < config.loadRetries then .again (config.backoff attempt)
  else .giveUp (attempt + 1)

/-- The error of an import whose last fetch failed. -/
def error (url type : String) (attempts : UInt32) (failure : FetchFailure) : ImportError :=
  .load url type none attempts (.fetch failure)

/-- **What a warning counts** of a failure that is tried again: which attempt it was, counted from 1, and
how many there may be. -/
structure Warning where
  attempt : UInt32
  attempts : UInt32
  deriving DecidableEq, Repr

/-- The warning about attempt number `attempt`, counted from 0. -/
def warning (config : Config) (attempt : UInt32) : Warning :=
  ⟨attempt + 1, config.loadRetries + 1⟩

/-- **What a series of fetches comes to.** -/
structure Run where
  result : Except ImportError Fetched
  /-- The waits between the fetches. -/
  waits : List UInt64
  /-- A warning before each wait. -/
  warnings : List Warning

/-- One more warning and wait before the rest of a series. -/
def Run.delayed (warning : Warning) (wait : UInt64) (rest : Run) : Run :=
  { rest with waits := wait :: rest.waits, warnings := warning :: rest.warnings }

theorem after_eq_again {config : Config} {attempt : UInt32} {failure : FetchFailure} {wait : UInt64}
    (h : after config attempt failure = .again wait) :
    failure.isTransient = true ∧ attempt < config.loadRetries ∧ wait = config.backoff attempt := by
  unfold after at h
  split at h
  · next hc =>
    cases h
    simpa using hc
  · cases h

/-- An attempt that is allowed another one is not the last that a word counts. -/
theorem toNat_succ {attempt limit : UInt32} (h : attempt < limit) :
    (attempt + 1).toNat = attempt.toNat + 1 := by
  have hlt : attempt.toNat < limit.toNat := UInt32.lt_iff_toNat_lt.1 h
  have hbound : limit.toNat < 2 ^ 32 := limit.toNat_lt
  rw [UInt32.toNat_add]
  simp only [UInt32.toNat_one]
  omega

/-- The series from an attempt on; `fetch` tells what each attempt gives. -/
def run (config : Config) (url type : String) (fetch : Nat → Except FetchFailure Fetched)
    (attempt : UInt32) : Run :=
  match fetch attempt.toNat with
  | .ok fetched => ⟨.ok fetched, [], []⟩
  | .error failure =>
    match h : after config attempt failure with
    | .again wait =>
      Run.delayed (warning config attempt) wait (run config url type fetch (attempt + 1))
    | .giveUp attempts => ⟨.error (error url type attempts failure), [], []⟩
termination_by config.loadRetries.toNat - attempt.toNat
decreasing_by
  have hlt := (after_eq_again h).2.1
  have hnext := toNat_succ hlt
  have := UInt32.lt_iff_toNat_lt.1 hlt
  omega

/-- The times at which the fetches of a series are made, in milliseconds from its start. -/
def Run.fetchTimes (run : Run) : List Nat :=
  (run.waits.foldl (fun (times, now) wait => (times ++ [now + wait.toNat], now + wait.toNat))
    ([0], 0)).1

end Retry

/-- **Loads an asset**: fetches it, again if need be, and sees what it is. -/
def Asset.load (config : Config) (native : NativeMemo) (url : Url) (type : String)
    (requested : Option String) (fetch : Nat → Except FetchFailure Fetched) :
    Except ImportError Asset × NativeMemo × Retry.Run :=
  let run := Retry.run config url.text type fetch 0
  match run.result with
  | .error e => (.error e, native, run)
  | .ok fetched =>
    let (asset, native) := Asset.ofFetched native url type requested fetched
    (.ok asset, native, run)

end TypedImport
