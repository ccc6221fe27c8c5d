import Mathlib.Algebra.Ring.Nat
import TypedImport.Proofs.Config.Backoff
import TypedImport.Source.Retry

/-!
# What a series of fetches comes to

`Asset.load` fetches until there is an outcome other than a transient failure, or until no retry is left.
Here the whole series is told by the outcomes alone: how many fetches there are, when they are made, and
which of the outcomes is the result. `Asset.retried_load` is the statement, for every fetcher.

**The last fetch.** `Retry.IsLast` says which fetch is the last one: the outcomes before it are transient
failures, and its own is not, or there are no retries left. There is always such a fetch (`exists_isLast`).
`run_of_isLast` is the run of the loop up to it, by induction on the fetches that are still to come, from
the step lemmas `run_of_stops` and `run_of_again`.
-/

namespace TypedImport

/-- How long the waits before fetch number `i`, counted from 0, take together. -/
def Config.waited (c : Config) (i : Nat) : Nat :=
  ((List.range i).map c.delay).sum

theorem Config.waited_succ (c : Config) (i : Nat) : c.waited (i + 1) = c.waited i + c.delay i := by
  simp [waited, List.range_succ]

namespace Retry

variable {config : Config} {url type : String} {fetch : Nat → Except FetchFailure Fetched} {last : Nat}

/-- Whether an outcome is a failure that another fetch could mend. -/
def isTransient : Except FetchFailure Fetched → Bool
  | .ok _ => false
  | .error failure => failure.isTransient

/-- **The first `k` outcomes are transient failures.** -/
def Leads (fetch : Nat → Except FetchFailure Fetched) (k : Nat) : Prop :=
  ∀ i, i < k → isTransient (fetch i) = true

/-- **`k` is the number of the transient failures that come first.** -/
structure Leading (fetch : Nat → Except FetchFailure Fetched) (k : Nat) : Prop where
  leads : Leads fetch k
  other : isTransient (fetch k) = false

/-- The outcomes with another one in the place of number `i`. -/
def instead (fetch : Nat → Except FetchFailure Fetched) (i : Nat) (outcome : Except FetchFailure Fetched) :
    Nat → Except FetchFailure Fetched :=
  fun j => if j = i then outcome else fetch j

/-- **A fetch is the last of its series.** -/
structure IsLast (config : Config) (fetch : Nat → Except FetchFailure Fetched) (last : Nat) : Prop where
  leads : Leads fetch last
  allowed : last ≤ config.loadRetries.toNat
  stops : isTransient (fetch last) = false ∨ last = config.loadRetries.toNat

/-- **How a series runs** whose last fetch is number `last`, counted from 0. -/
structure Run.Makes (run : Run) (config : Config) (last : Nat) : Prop where
  fetches : run.fetchTimes.length = last + 1
  /-- Between a fetch and the next one is the wait after the former, and there is no other wait. -/
  waits : run.waits = (List.range last).map fun i => config.backoff (UInt32.ofNat i)
  /-- Each fetch is made when the waits before it are over. -/
  times : run.fetchTimes = (List.range (last + 1)).map config.waited
  /-- The waits in all, in exact arithmetic. -/
  total : (run.waits.map UInt64.toNat).sum = config.waited last

/-! ## The last fetch -/

theorem Leads.mono {k m : Nat} (h : Leads fetch m) (hk : k ≤ m) : Leads fetch k :=
  fun i hi => h i (Nat.lt_of_lt_of_le hi hk)

theorem Leads.le_of_other {k i : Nat} (h : Leads fetch k) (other : isTransient (fetch i) = false) :
    k ≤ i := by
  refine Nat.le_of_not_lt fun hi => ?_
  rw [h i hi] at other
  cases other

/-- Every series has a last fetch. -/
theorem exists_isLast (config : Config) (fetch : Nat → Except FetchFailure Fetched) :
    ∃ last, IsLast config fetch last := by
  -- the longest run of transient failures that the retries allow
  suffices ∀ n, ∃ k ≤ n, Leads fetch k ∧ (isTransient (fetch k) = false ∨ k = n) by
    obtain ⟨k, hk, leads, stops⟩ := this config.loadRetries.toNat
    exact ⟨k, leads, hk, stops⟩
  intro n
  induction n with
  | zero => exact ⟨0, Nat.le_refl 0, fun i hi => absurd hi (Nat.not_lt_zero i), .inr rfl⟩
  | succ n ih =>
    obtain ⟨k, hk, leads, stops⟩ := ih
    by_cases transient : isTransient (fetch k) = true
    · have hn : k = n := stops.resolve_left (by simp [transient])
      subst hn
      refine ⟨k + 1, Nat.le_refl _, fun i hi => ?_, .inr rfl⟩
      obtain hi | rfl := Nat.lt_succ_iff_lt_or_eq.1 hi
      · exact leads i hi
      · exact transient
    · exact ⟨k, Nat.le_succ_of_le hk, leads, .inl (by simpa using transient)⟩

/-- A transient failure that may be tried again is not the last outcome. -/
theorem IsLast.ne {i : Nat} (h : IsLast config fetch last) (transient : isTransient (fetch i) = true)
    (hi : i < config.loadRetries.toNat) : last ≠ i := by
  rintro rfl
  obtain other | none := h.stops
  · rw [transient] at other
    cases other
  · exact absurd none (Nat.ne_of_lt hi)

theorem Leading.isLast {k : Nat} (h : Leading fetch k) (hk : k ≤ config.loadRetries.toNat) :
    IsLast config fetch k :=
  ⟨h.leads, hk, .inl h.other⟩

theorem Leads.isLast (h : Leads fetch (config.loadRetries.toNat + 1)) :
    IsLast config fetch config.loadRetries.toNat :=
  ⟨h.mono (Nat.le_succ _), Nat.le_refl _, .inr rfl⟩

/-- A series breaks off where an outcome is replaced by a failure for good. -/
theorem IsLast.instead {i : Nat} (h : IsLast config fetch last) (hi : i ≤ last) (message : String) :
    IsLast config (instead fetch i (.error ⟨.fatal, message⟩)) i where
  leads j hj := by
    rw [Retry.instead, if_neg (Nat.ne_of_lt hj)]
    exact h.leads j (Nat.lt_of_lt_of_le hj hi)
  allowed := Nat.le_trans hi h.allowed
  stops := by
    rw [Retry.instead, if_pos rfl]
    exact .inl rfl

/-! ## One fetch -/

/-- What a series comes to whose last fetch, number `last`, has an outcome. -/
def ending (url type : String) (last : Nat) : Except FetchFailure Fetched → Except ImportError Fetched
  | .ok fetched => .ok fetched
  | .error failure => .error (error url type (UInt32.ofNat (last + 1)) failure)

/-- The number of a fetch that the retries allow is a word. -/
theorem toNat_ofNat_of_le {n : Nat} (h : n ≤ config.loadRetries.toNat) : (UInt32.ofNat n).toNat = n :=
  UInt32.toNat_ofNat_of_lt' (Nat.lt_of_le_of_lt h config.loadRetries.toNat_lt)

theorem after_of_again {n : Nat} {failure : FetchFailure} (transient : failure.isTransient = true)
    (h : n < config.loadRetries.toNat) :
    after config (UInt32.ofNat n) failure = .again (config.backoff (UInt32.ofNat n)) := by
  have hlt : UInt32.ofNat n < config.loadRetries :=
    UInt32.lt_iff_toNat_lt.2 (by rwa [toNat_ofNat_of_le (Nat.le_of_lt h)])
  simp [after, transient, hlt]

theorem after_of_stops {n : Nat} {failure : FetchFailure} (h : n ≤ config.loadRetries.toNat)
    (stops : failure.isTransient = false ∨ n = config.loadRetries.toNat) :
    after config (UInt32.ofNat n) failure = .giveUp (UInt32.ofNat n + 1) := by
  obtain transient | rfl := stops
  · simp [after, transient]
  · simp [after]

/-- **A fetch that is not the last** is followed by a wait and the rest of the series. -/
theorem run_of_again {n : Nat} (transient : isTransient (fetch n) = true)
    (h : n < config.loadRetries.toNat) :
    run config url type fetch (UInt32.ofNat n) =
      (run config url type fetch (UInt32.ofNat (n + 1))).delayed (warning config (UInt32.ofNat n))
        (config.backoff (UInt32.ofNat n)) := by
  rw [run, toNat_ofNat_of_le (Nat.le_of_lt h), UInt32.ofNat_add]
  cases outcome : fetch n with
  | ok fetched =>
    rw [outcome] at transient
    cases transient
  | error failure =>
    rw [outcome] at transient
    dsimp only
    split
    · next hafter =>
      rw [after_of_again transient h] at hafter
      cases hafter
      rfl
    · next hafter =>
      rw [after_of_again transient h] at hafter
      cases hafter

/-- **The last fetch** gives the result, and nothing is waited for. -/
theorem run_of_stops {n : Nat} (h : n ≤ config.loadRetries.toNat)
    (stops : isTransient (fetch n) = false ∨ n = config.loadRetries.toNat) :
    run config url type fetch (UInt32.ofNat n) = ⟨ending url type n (fetch n), [], []⟩ := by
  rw [run, toNat_ofNat_of_le h]
  cases outcome : fetch n with
  | ok fetched => rfl
  | error failure =>
    rw [outcome] at stops
    dsimp only
    split
    · next hafter =>
      rw [after_of_stops h stops] at hafter
      cases hafter
    · next hafter =>
      rw [after_of_stops h stops] at hafter
      cases hafter
      rw [ending, UInt32.ofNat_add]
      rfl

/-! ## The whole series -/

/-- The loop from fetch number `n` on, by the number of fetches that come after it. -/
theorem run_from (h : IsLast config fetch last) (more n : Nat) (hn : n + more = last) :
    run config url type fetch (UInt32.ofNat n) =
      ⟨ending url type last (fetch last),
        (List.range more).map fun i => config.backoff (UInt32.ofNat (n + i)),
        (List.range more).map fun i => warning config (UInt32.ofNat (n + i))⟩ := by
  induction more generalizing n with
  | zero =>
    cases hn
    exact run_of_stops h.allowed h.stops
  | succ more ih =>
    have hlt : n < last := by omega
    rw [run_of_again (h.leads n hlt) (Nat.lt_of_lt_of_le hlt h.allowed), ih (n + 1) (by omega),
      Run.delayed, List.range_succ_eq_map, List.map_cons, List.map_map, List.map_cons, List.map_map]
    simp [Function.comp_def, Nat.add_comm, Nat.add_left_comm]

/-- **The series up to its last fetch.** -/
theorem run_of_isLast (h : IsLast config fetch last) :
    run config url type fetch 0 =
      ⟨ending url type last (fetch last),
        (List.range last).map fun i => config.backoff (UInt32.ofNat i),
        (List.range last).map fun i => warning config (UInt32.ofNat i)⟩ := by
  simpa using run_from h last 0 (Nat.zero_add last)

/-- Each fetch of a series is made when the waits before it are over. -/
theorem fetchTimes_eq (result : Except ImportError Fetched) (wait : Nat → UInt64) (n : Nat)
    (warnings : List Warning) :
    Run.fetchTimes ⟨result, (List.range n).map wait, warnings⟩ =
      (List.range (n + 1)).map fun i => ((List.range i).map fun j => (wait j).toNat).sum := by
  -- the fold carries the time along, and the induction needs it to be the sum so far
  suffices ((List.range n).map wait).foldl
      (fun told wait => (told.1 ++ [told.2 + wait.toNat], told.2 + wait.toNat)) ([0], 0) =
      ((List.range (n + 1)).map fun i => ((List.range i).map fun j => (wait j).toNat).sum,
        ((List.range n).map fun j => (wait j).toNat).sum) from congrArg Prod.fst this
  induction n with
  | zero => rfl
  | succ n ih =>
    rw [List.range_succ, List.map_append, List.foldl_append, ih, List.range_succ (n := n + 1)]
    simp [List.range_succ]

/-- The waits of words before a fetch that the retries allow are the exact ones. -/
theorem sum_backoff {i : Nat} (h : i ≤ config.loadRetries.toNat) :
    ((List.range i).map fun j => (config.backoff (UInt32.ofNat j)).toNat).sum = config.waited i := by
  refine congrArg List.sum (List.map_congr_left fun j hj => ?_)
  have hle : j ≤ config.loadRetries.toNat := Nat.le_trans (Nat.le_of_lt (List.mem_range.1 hj)) h
  rw [Config.toNat_backoff, toNat_ofNat_of_le hle]

theorem makes_of_isLast (h : IsLast config fetch last) :
    (run config url type fetch 0).Makes config last := by
  have times : (run config url type fetch 0).fetchTimes =
      (List.range (last + 1)).map config.waited := by
    rw [run_of_isLast h, fetchTimes_eq]
    refine List.map_congr_left fun i hi => sum_backoff ?_
    have hle : i ≤ last := Nat.le_of_lt_succ (List.mem_range.1 hi)
    exact Nat.le_trans hle h.allowed
  constructor
  · rw [times, List.length_map, List.length_range]
  · rw [run_of_isLast h]
  · exact times
  · rw [run_of_isLast h, List.map_map]
    exact sum_backoff h.allowed

/-- The series is told by the outcomes up to the last fetch. -/
theorem run_congr {other : Nat → Except FetchFailure Fetched} (h : IsLast config fetch last)
    (same : ∀ i, i ≤ last → other i = fetch i) :
    run config url type other 0 = run config url type fetch 0 := by
  have isLast : IsLast config other last :=
    ⟨fun i hi => by rw [same i (Nat.le_of_lt hi)]; exact h.leads i hi, h.allowed, by
      rw [same last (Nat.le_refl last)]; exact h.stops⟩
  rw [run_of_isLast h, run_of_isLast isLast, same last (Nat.le_refl last)]

end Retry

/-! ## The asset -/

namespace Asset

open Retry

/-- **What an outcome makes of an asset's loading.** -/
inductive Reflects (url : Url) (type : String) :
    Except FetchFailure Fetched → Except ImportError Asset → Prop where
  /-- An asset with exactly the bytes that were fetched, and their fingerprint. -/
  | loaded {fetched : Fetched} {asset : Asset} (bytes : asset.bytes = fetched.bytes)
      (mark : asset.fingerprint = TypedImport.fingerprint fetched.bytes) :
      Reflects url type (.ok fetched) (.ok asset)
  /-- An error that tells the failure. -/
  | failed (failure : FetchFailure) (attempts : UInt32) :
      Reflects url type (.error failure) (.error (.load url.text type none attempts (.fetch failure)))

/-- **A loading that is retried as configured**, whatever the outcomes of the fetches are. -/
structure Retried (config : Config) (url : Url) (type : String)
    (load : (Nat → Except FetchFailure Fetched) → Except ImportError Asset × NativeMemo × Run) :
    Prop where
  /-- No more transient failures come first than there are retries: the outcome after them counts. -/
  ended : ∀ fetch k, Leading fetch k → k ≤ config.loadRetries.toNat →
    (load fetch).2.2.Makes config k ∧ Reflects url type (fetch k) (load fetch).1
  /-- More of them come first: the failure of the last retry counts. -/
  exhausted : ∀ fetch, Leads fetch (config.loadRetries.toNat + 1) →
    (load fetch).2.2.Makes config config.loadRetries.toNat ∧
      ∃ failure, fetch config.loadRetries.toNat = .error failure ∧
        Reflects url type (.error failure) (load fetch).1
  /-- Every series ends, and its last fetch is one that the retries allow. -/
  ends : ∀ fetch, ∃ last, IsLast config fetch last ∧ (load fetch).2.2.Makes config last
  /-- No fetch follows an outcome other than a transient failure. -/
  final : ∀ fetch i, isTransient (fetch i) = false → (load fetch).2.2.fetchTimes.length ≤ i + 1
  /-- Nothing is read of the outcomes after the last fetch. -/
  unread : ∀ fetch other, (∀ i, i < (load fetch).2.2.fetchTimes.length → other i = fetch i) →
    load other = load fetch
  /-- Each of the outcomes up to the last fetch is read: there is another outcome that changes the loading. -/
  read : ∀ fetch i, i < (load fetch).2.2.fetchTimes.length →
    ∃ outcome, load (instead fetch i outcome) ≠ load fetch

variable {config : Config} {url : Url} {type : String} {requested : Option String} {native : NativeMemo}
  {fetch : Nat → Except FetchFailure Fetched} {last : Nat}

@[simp] theorem load_run :
    (load config native url type requested fetch).2.2 = run config url.text type fetch 0 := by
  unfold load
  dsimp only
  split <;> rfl

theorem makes_load (h : IsLast config fetch last) :
    (load config native url type requested fetch).2.2.Makes config last := by
  rw [load_run]
  exact makes_of_isLast h

/-- The result of a loading reflects the last outcome. -/
theorem reflects_of_isLast (h : IsLast config fetch last) :
    Reflects url type (fetch last) (load config native url type requested fetch).1 := by
  unfold load
  rw [run_of_isLast h]
  cases fetch last with
  | ok fetched => exact .loaded rfl rfl
  | error failure => exact .failed failure _

/-- A loading fails as its last fetch does, and tells the number of that fetch, counted from 1. -/
theorem load_eq_error_iff (h : IsLast config fetch last) {e : ImportError} :
    (load config native url type requested fetch).1 = .error e ↔
      ∃ failure, fetch last = .error failure ∧
        e = .load url.text type none (UInt32.ofNat (last + 1)) (.fetch failure) := by
  unfold load
  rw [run_of_isLast h]
  cases fetch last with
  | ok fetched => simp [ending]
  | error failure => simp [ending, Retry.error, eq_comm]

theorem load_congr {other : Nat → Except FetchFailure Fetched} (h : IsLast config fetch last)
    (same : ∀ i, i ≤ last → other i = fetch i) :
    load config native url type requested other = load config native url type requested fetch := by
  unfold load
  rw [run_congr h same]

/-- Replacing an outcome up to the last by a failure for good makes the loading fail with it. -/
theorem load_instead {i : Nat} (h : IsLast config fetch last) (hi : i ≤ last) (message : String) :
    (load config native url type requested (instead fetch i (.error ⟨.fatal, message⟩))).1 =
      .error (.load url.text type none (UInt32.ofNat (i + 1)) (.fetch ⟨.fatal, message⟩)) :=
  (load_eq_error_iff (h.instead hi message)).2 ⟨_, if_pos rfl, rfl⟩

/-- **Every loading is retried as configured.** -/
theorem retried_load (config : Config) (native : NativeMemo) (url : Url) (type : String)
    (requested : Option String) : Retried config url type (load config native url type requested) where
  ended fetch k leading hk := by
    have isLast := leading.isLast hk
    exact ⟨makes_load isLast, reflects_of_isLast isLast⟩
  exhausted fetch leads := by
    have isLast := leads.isLast
    refine ⟨makes_load isLast, ?_⟩
    have transient := leads _ (Nat.lt_succ_self _)
    have reflects : Reflects url type (fetch config.loadRetries.toNat)
        (load config native url type requested fetch).1 := reflects_of_isLast isLast
    cases outcome : fetch config.loadRetries.toNat with
    | ok fetched =>
      rw [outcome] at transient
      cases transient
    | error failure => exact ⟨failure, rfl, outcome ▸ reflects⟩
  ends fetch := by
    obtain ⟨last, isLast⟩ := exists_isLast config fetch
    exact ⟨last, isLast, makes_load isLast⟩
  final fetch i other := by
    obtain ⟨last, isLast⟩ := exists_isLast config fetch
    have hle := isLast.leads.le_of_other other
    rw [(makes_load isLast).fetches]
    exact Nat.succ_le_succ hle
  unread fetch other same := by
    obtain ⟨last, isLast⟩ := exists_isLast config fetch
    rw [(makes_load isLast).fetches] at same
    exact load_congr isLast fun i hi => same i (Nat.lt_succ_of_le hi)
  read fetch i hi := by
    obtain ⟨last, isLast⟩ := exists_isLast config fetch
    rw [(makes_load isLast).fetches] at hi
    have hi := Nat.le_of_lt_succ hi
    -- two failures for good give two loadings, and at most one of them is the given one
    by_cases same : load config native url type requested (instead fetch i (.error ⟨.fatal, ""⟩)) =
        load config native url type requested fetch
    · refine ⟨.error ⟨.fatal, "gone"⟩, fun same' => ?_⟩
      have first := congrArg Prod.fst same
      have second := congrArg Prod.fst same'
      rw [load_instead isLast hi] at first second
      simpa using first.trans second.symm
    · exact ⟨_, same⟩

end Asset

end TypedImport
