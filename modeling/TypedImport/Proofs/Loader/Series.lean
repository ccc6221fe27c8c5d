import TypedImport.Proofs.Loader.Demands
import TypedImport.Proofs.Source.Retries

/-!
# The fetches of an import

A loader makes the fetches of an import turn by turn: it tries once, writes down until when it waits, and goes
on with other things. Here an import is left alone with its source, and then these turns are the series of
fetches that `Retry.run` tells (`fetchesAs_run`): as many of them, with the same waits in between, and the last
one gives the import what the series gives.

**The outcomes** are what the source would say one time after the other (`Feed.outcome`). A source may change
with each fetch, so the number of a fetch and the state of the source go together (`atFetch`).
-/

namespace TypedImport

namespace Feed

/-- The feed after a number of fetches of a URL. -/
def fetched (feed : Feed) (url : Url) : Nat → Feed
  | 0 => feed
  | n + 1 => ((fetched feed url n).fetch url).2

/-- **What fetch number `n` of a URL gives**, counted from 0, if nothing else is fetched. -/
def outcome (feed : Feed) (url : Url) (n : Nat) : Except FetchFailure Fetched :=
  ((feed.fetched url n).fetch url).1

theorem gate?_fetch (feed : Feed) (url other : Url) : (feed.fetch url).2.gate? other = feed.gate? other := by
  unfold fetch
  cases feed with
  | disk files => rfl
  | memory store failures gates =>
    dsimp only
    split <;> rfl

theorem gate?_fetched (feed : Feed) (url other : Url) (n : Nat) :
    (feed.fetched url n).gate? other = feed.gate? other := by
  induction n with
  | zero => rfl
  | succ n ih => rw [fetched, gate?_fetch, ih]

end Feed

namespace Loader

variable {l : Loader} {i n last : Nat} {states : List ImportState} {request : ImportRequest}
  {early : Option Descriptor} {till : Option Nat}

/-- **An import is about to make its first fetch.** -/
structure FirstFetch (l : Loader) (i : Nat) (states : List ImportState) (request : ImportRequest)
    (early : Option Descriptor) (till : Option Nat) : Prop where
  stage : l.imports[i]? = some ⟨states, .fetching request early 0 till⟩
  due : l.isPast till = true
  free : l.isHeld request.url = false

/-- **The turns of an import that is left alone**: each time it fetches, and then the time of the wait
goes by. -/
def series (i : Nat) (waits : List UInt64) : List Event :=
  waits.flatMap fun wait => [.pollImport i, .pass wait.toNat]

/-- **The loader before fetch number `n`** of an import that has begun to fetch in it. -/
def atFetch (l : Loader) (i : Nat) (states : List ImportState) (request : ImportRequest)
    (early : Option Descriptor) : Nat → Loader
  | 0 => l
  | n + 1 =>
    let now := l.now + l.config.waited (n + 1)
    { l with
      feed := l.feed.fetched request.url (n + 1)
      now := now
      imports := l.imports.set i ⟨states, .fetching request early (UInt32.ofNat (n + 1)) (some now)⟩ }

theorem atFetch_feed :
    (l.atFetch i states request early n).feed = l.feed.fetched request.url n := by
  cases n <;> rfl

theorem atFetch_free (h : l.FirstFetch i states request early till) :
    (l.atFetch i states request early n).isHeld request.url = false := by
  have opened : (l.atFetch i states request early n).opened = l.opened := by cases n <;> rfl
  have free := h.free
  unfold isHeld isOpen at free ⊢
  rw [atFetch_feed, Feed.gate?_fetched, opened]
  exact free

/-- Before each fetch of the series it is the import's turn to make it. -/
theorem atFetch_stage (h : l.FirstFetch i states request early till) (n : Nat) :
    ∃ till, (l.atFetch i states request early n).imports[i]? =
        some ⟨states, .fetching request early (UInt32.ofNat n) till⟩ ∧
      (l.atFetch i states request early n).isPast till = true := by
  cases n with
  | zero => exact ⟨till, h.stage, h.due⟩
  | succ n =>
    have hi : i < l.imports.length := (List.getElem?_eq_some_iff.1 h.stage).1
    exact ⟨_, List.getElem?_set_self hi, by simp [isPast, atFetch]⟩

/-- The loader just after fetch number `n`, before it looks at the outcome. -/
def atOutcome (l : Loader) (i : Nat) (states : List ImportState) (request : ImportRequest)
    (early : Option Descriptor) (n : Nat) : Loader :=
  { l.atFetch i states request early n with feed := l.feed.fetched request.url (n + 1) }

/-- **The turn of a fetch**, by the outcome and what is decided after it. -/
theorem approach_eq_outcome (h : l.FirstFetch i states request early till) (n : Nat) :
    (l.atFetch i states request early n).approach i =
      match l.feed.outcome request.url n with
      | .ok fetched => (l.atOutcome i states request early n).receive i states request early fetched
      | .error failure =>
        match Retry.after l.config (UInt32.ofNat n) failure with
        | .again wait =>
          ((l.atOutcome i states request early n).setImport i states
            (.fetching request early (UInt32.ofNat n + 1)
              (some (l.now + l.config.waited n + wait.toNat))), none)
        | .giveUp attempts =>
          ((l.atOutcome i states request early n).fail i states
            (loadError request early attempts failure), none) := by
  obtain ⟨till, stage, due⟩ := atFetch_stage h n
  unfold approach
  rw [stage]
  dsimp only
  rw [if_pos due, fetchAsset, atFetch_free h]
  cases n <;> rfl

/-- The number of the next fetch and the time for it are written down, and then that time comes. -/
theorem pass_atOutcome {wait : Nat} (h : wait = l.config.delay n) :
    ((l.atOutcome i states request early n).setImport i states
        (.fetching request early (UInt32.ofNat n + 1) (some (l.now + l.config.waited n + wait)))).after
          (.pass wait) =
      l.atFetch i states request early (n + 1) := by
  have number : UInt32.ofNat n + 1 = UInt32.ofNat (n + 1) := by rw [UInt32.ofNat_add, UInt32.ofNat_one]
  have time : l.now + l.config.waited n + wait = l.now + l.config.waited (n + 1) := by
    rw [Config.waited_succ, h, Nat.add_assoc]
  rw [number, time]
  cases n with
  | zero => simpa [after, setImport, atOutcome, atFetch, Config.waited] using time
  | succ n => simpa [after, setImport, atOutcome, atFetch] using time

/-- **One fetch of the series that is not the last**, and the wait after it. -/
theorem step_series (h : l.FirstFetch i states request early till)
    (transient : Retry.isTransient (l.feed.outcome request.url n) = true)
    (hn : n < l.config.loadRetries.toNat) :
    (l.atFetch i states request early n).run (series i [l.config.backoff (UInt32.ofNat n)]) =
      l.atFetch i states request early (n + 1) := by
  have turn := approach_eq_outcome h n
  cases outcome : l.feed.outcome request.url n with
  | ok fetched =>
    rw [outcome] at transient
    cases transient
  | error failure =>
    rw [outcome] at turn transient
    dsimp only at turn
    rw [Retry.after_of_again transient hn] at turn
    obtain ⟨till, stage, -⟩ := atFetch_stage h n
    have poll := pollImport_of_silent stage trivial (by rw [turn])
    rw [turn] at poll
    show ((l.atFetch i states request early n).pollImport i).after (.pass _) = _
    rw [poll]
    refine pass_atOutcome ?_
    rw [Config.toNat_backoff, Retry.toNat_ofNat_of_le (Nat.le_of_lt hn)]

/-- **The series up to its last fetch**, in the loader. -/
theorem run_series (h : l.FirstFetch i states request early till)
    (isLast : Retry.IsLast l.config (l.feed.outcome request.url) last) (hn : n ≤ last) :
    l.run (series i ((List.range n).map fun j => l.config.backoff (UInt32.ofNat j))) =
      l.atFetch i states request early n := by
  induction n with
  | zero => rfl
  | succ n ih =>
    have before := ih (Nat.le_of_succ_le hn)
    rw [List.range_succ, List.map_append, series, List.flatMap_append, run_append]
    rw [series] at before
    rw [before]
    exact step_series h (isLast.leads n hn) (Nat.lt_of_lt_of_le hn isLast.allowed)

/-- **The turns of an import agree with a series of fetches.** -/
structure FetchesAs (l : Loader) (i : Nat) (states : List ImportState) (request : ImportRequest)
    (early : Option Descriptor) (run : Retry.Run) : Prop where
  /-- Nothing else is different before the last fetch than the source, the time and the import's own stage. -/
  before : l.run (series i run.waits) = l.atFetch i states request early run.waits.length
  /-- If the series gives an asset, the import goes on with it. -/
  loaded : ∀ fetched, run.result = .ok fetched →
    (l.run (series i run.waits)).approach i =
      (l.atOutcome i states request early run.waits.length).receive i states request early fetched
  /-- If it gives an error, the import fails with it, on behalf of its handler if there is one. -/
  failed : ∀ e, run.result = .error e →
    (l.run (series i run.waits)).approach i =
      ((l.atOutcome i states request early run.waits.length).fail i states
        (early.elim e fun d => e.withHandler d.id), none)

/-- **An import that is left alone fetches as `Retry.run` tells.** -/
theorem fetchesAs_run (h : l.FirstFetch i states request early till) :
    l.FetchesAs i states request early
      (Retry.run l.config request.url.text request.type (l.feed.outcome request.url) 0) := by
  obtain ⟨last, isLast⟩ := Retry.exists_isLast l.config (l.feed.outcome request.url)
  have before := run_series h isLast (Nat.le_refl last)
  have turn := approach_eq_outcome h last
  rw [Retry.run_of_isLast isLast]
  constructor
  · simpa using before
  · intro fetched result
    rw [before, turn]
    cases outcome : l.feed.outcome request.url last with
    | ok fetched' =>
      rw [outcome] at result
      cases result
      simp
    | error failure =>
      rw [outcome] at result
      cases result
  · intro e result
    rw [before, turn]
    cases outcome : l.feed.outcome request.url last with
    | ok fetched =>
      rw [outcome] at result
      cases result
    | error failure =>
      have stops := isLast.stops
      rw [outcome] at result stops
      cases result
      have done : Retry.after l.config (UInt32.ofNat last) failure = .giveUp (UInt32.ofNat last + 1) :=
        Retry.after_of_stops isLast.allowed stops
      rw [List.length_map, List.length_range, UInt32.ofNat_add, UInt32.ofNat_one]
      dsimp only
      rw [done]
      cases early <;> rfl

end Loader

end TypedImport
