import TypedImport.Proofs.Source.Retries

/-!
# Counting the attempts

A loading counts its fetches in words of 32 bits. The number of the attempt goes up by one with each retry; a
warning tells it, together with the number of attempts that the configuration allows; and the error at the end
tells how many attempts were made. `Asset.counts_iff` says when all of these numbers are exact.

**The largest word.** There may be one attempt more than there are retries, and for the largest word of
retries no word holds that number. The warnings then tell of zero attempts, from the first retry on
(`warned_iff`). The error does so only if all of the attempts have failed (`told_iff`). The number of the
attempt itself never leaves its word (`attempt_exact`).
-/

namespace TypedImport

namespace Retry

/-- The largest number of 32 bits. -/
def maxRetries : UInt32 := 0xffffffff

theorem pos_of_most {config : Config} (most : config.loadRetries = maxRetries) :
    0 < config.loadRetries.toNat := by
  rw [most]
  decide

/-- One more than a word is a word, unless it is the largest. -/
theorem toNat_succ_iff (n : UInt32) : (n + 1).toNat = n.toNat + 1 ↔ n ≠ maxRetries := by
  have hn := n.toNat_lt
  rw [Ne, ← UInt32.toNat_inj, UInt32.toNat_add, UInt32.toNat_one]
  show (n.toNat + 1) % 2 ^ 32 = n.toNat + 1 ↔ n.toNat ≠ 2 ^ 32 - 1
  omega

/-- The number of attempts up to one that the retries allow is a word, unless it is one more than the
largest. -/
theorem toNat_ofNat_succ_iff {config : Config} {n : Nat} (h : n ≤ config.loadRetries.toNat) :
    (UInt32.ofNat (n + 1)).toNat = n + 1 ↔ n ≠ maxRetries.toNat := by
  rw [UInt32.ofNat_add, UInt32.ofNat_one]
  have succ := toNat_succ_iff (UInt32.ofNat n)
  rwa [Ne, ← UInt32.toNat_inj, toNat_ofNat_of_le h] at succ

end Retry

namespace Asset

open Retry

variable {config : Config} {native : NativeMemo} {url : Url} {type : String} {requested : Option String}
  {fetch : Nat → Except FetchFailure Fetched} {last : Nat}

/-- **A loading counts its attempts exactly.** -/
structure Counts (config : Config) (loaded : Except ImportError Asset × NativeMemo × Run) : Prop where
  /-- A warning tells which attempt it is about. -/
  attempt : ∀ i warning, loaded.2.2.warnings[i]? = some warning → warning.attempt.toNat = i + 1
  /-- A warning tells how many attempts there may be: the first one and the retries. -/
  warned : ∀ warning ∈ loaded.2.2.warnings, warning.attempts.toNat = config.loadRetries.toNat + 1
  /-- An error tells how many fetches were made. -/
  told : ∀ url type handler attempts reason, loaded.1 = .error (.load url type handler attempts reason) →
    attempts.toNat = loaded.2.2.fetchTimes.length

theorem warnings_of_isLast (h : IsLast config fetch last) :
    (load config native url type requested fetch).2.2.warnings =
      (List.range last).map fun i => warning config (UInt32.ofNat i) := by
  rw [load_run, run_of_isLast h]

/-- The number of an attempt is always exact. -/
theorem attempt_exact {i : Nat} {w : Warning}
    (h : (load config native url type requested fetch).2.2.warnings[i]? = some w) :
    w.attempt.toNat = i + 1 := by
  obtain ⟨last, isLast⟩ := exists_isLast config fetch
  rw [warnings_of_isLast isLast, List.getElem?_map, Option.map_eq_some_iff] at h
  obtain ⟨j, hj, rfl⟩ := h
  obtain ⟨hlt, rfl⟩ := List.getElem?_eq_some_iff.1 hj
  rw [List.length_range] at hlt
  rw [List.getElem_range, warning, ← UInt32.ofNat_one, ← UInt32.ofNat_add]
  exact toNat_ofNat_of_le (Nat.le_trans hlt isLast.allowed)

/-- **The warnings are exact** unless there are the most retries and one of them is made. -/
theorem warned_iff :
    (∀ warning ∈ (load config native url type requested fetch).2.2.warnings,
      warning.attempts.toNat = config.loadRetries.toNat + 1) ↔
      ¬(config.loadRetries = maxRetries ∧ isTransient (fetch 0) = true) := by
  obtain ⟨last, isLast⟩ := exists_isLast config fetch
  rw [warnings_of_isLast isLast]
  constructor
  · rintro counted ⟨most, transient⟩
    have hlast : 0 < last := Nat.pos_of_ne_zero (isLast.ne transient (pos_of_most most))
    have first := counted (warning config (UInt32.ofNat 0))
      (List.mem_map.2 ⟨0, List.mem_range.2 hlast, rfl⟩)
    exact (toNat_succ_iff config.loadRetries).1 first most
  · intro few w hw
    obtain ⟨i, hi, rfl⟩ := List.mem_map.1 hw
    refine (toNat_succ_iff config.loadRetries).2 fun most => few ⟨most, isLast.leads 0 ?_⟩
    exact Nat.lt_of_le_of_lt (Nat.zero_le i) (List.mem_range.1 hi)

/-- **The error is exact** unless there are the most retries and every attempt has failed. -/
theorem told_iff :
    (∀ url' type' handler attempts reason,
      (load config native url type requested fetch).1 = .error (.load url' type' handler attempts reason) →
        attempts.toNat = (load config native url type requested fetch).2.2.fetchTimes.length) ↔
      ¬(config.loadRetries = maxRetries ∧ Leads fetch config.loadRetries.toNat ∧
        ∃ failure, fetch config.loadRetries.toNat = .error failure) := by
  constructor
  · rintro told ⟨most, leads, failure, outcome⟩
    have isLast : IsLast config fetch config.loadRetries.toNat := ⟨leads, Nat.le_refl _, .inr rfl⟩
    have counted := told _ _ _ _ _ ((load_eq_error_iff isLast).2 ⟨failure, outcome, rfl⟩)
    rw [(makes_load isLast).fetches] at counted
    exact (toNat_ofNat_succ_iff isLast.allowed).1 counted (congrArg UInt32.toNat most)
  · intro few url' type' handler attempts reason failed
    obtain ⟨last, isLast⟩ := exists_isLast config fetch
    obtain ⟨failure, outcome, told⟩ := (load_eq_error_iff isLast).1 failed
    cases told
    rw [(makes_load isLast).fetches]
    refine (toNat_ofNat_succ_iff isLast.allowed).2 fun most => few ?_
    -- the last attempt that a word counts is one that the retries allow only if they are the most
    have none : last = config.loadRetries.toNat :=
      Nat.le_antisymm isLast.allowed (most ▸ Nat.le_of_lt_succ config.loadRetries.toNat_lt)
    subst none
    exact ⟨UInt32.toNat_inj.1 most, isLast.leads, failure, outcome⟩

/-- **The attempts are counted exactly** unless there are the most retries that a word counts and the first
fetch fails for a while. -/
theorem counts_iff (config : Config) (native : NativeMemo) (url : Url) (type : String)
    (requested : Option String) (fetch : Nat → Except FetchFailure Fetched) :
    Counts config (load config native url type requested fetch) ↔
      ¬(config.loadRetries = maxRetries ∧ isTransient (fetch 0) = true) := by
  constructor
  · exact fun counts => warned_iff.1 counts.warned
  · intro few
    refine ⟨fun i w => attempt_exact, warned_iff.2 few, told_iff.2 ?_⟩
    rintro ⟨most, leads, -⟩
    exact few ⟨most, leads 0 (pos_of_most most)⟩

/-! ## The most retries -/

/-- The configuration with the most retries. -/
def tireless : Config where
  policy := .registryOnly
  loadRetries := maxRetries

/-- A source that is down for good. -/
def down : Nat → Except FetchFailure Fetched :=
  fun _ => .error ⟨.transient, "connection reset"⟩

def csvSheet : Url where
  scheme := "file"
  authority := some {}
  path := .segments ["sheet.csv"]

/-- The loading of the sheet from a source that is down. -/
def tirelessLoading : Except ImportError Asset × NativeMemo × Run :=
  load tireless { host := ⟨fun _ _ => false, fun _ => none⟩ } csvSheet "csv" none down

/-- The last attempt is the one with the largest number. -/
theorem isLast_tireless : IsLast tireless down maxRetries.toNat :=
  ⟨fun _ _ => rfl, Nat.le_refl _, .inr rfl⟩

/-- **The attempts of a tireless loading are not counted exactly**: it makes 2^32 fetches and tells that it made
none. The configuration is one that setting a field by name leads to. -/
theorem not_counts_tireless :
    (Config.set { policy := .registryOnly } "load_retries" "4294967295").toOption = some tireless ∧
      ¬Counts tireless tirelessLoading ∧
      tirelessLoading.2.2.fetchTimes.length = Nat.pow 2 32 ∧
      tirelessLoading.1 =
        .error (.load csvSheet.text "csv" none 0 (.fetch ⟨.transient, "connection reset"⟩)) := by
  refine ⟨by decide +kernel, fun counts => ?_, ?_, ?_⟩
  · exact warned_iff.1 counts.warned ⟨rfl, rfl⟩
  · rw [tirelessLoading, (makes_load isLast_tireless).fetches]
    rfl
  · exact (load_eq_error_iff isLast_tireless).2 ⟨_, rfl, rfl⟩

end Asset

end TypedImport
