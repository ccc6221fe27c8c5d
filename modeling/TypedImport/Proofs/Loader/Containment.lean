import TypedImport.Proofs.Loader.Computations

/-!
# Failures are contained

A handler may fail, break off when it is called or while it works, or never end; whoever waited for it
may be gone by then; the cache may be cleared at any time. `contained_run` says of every run of a loader
that nothing of this reaches further than the import's own error: no computation breaks off, no mark
outlives its computation, a record is kept as soon as there is one, and a failure leaves nothing.
-/

namespace TypedImport.Loader

variable {l : Loader} {events : List Event} {c : Nat} {f : Flight}

/-- **That failures are contained in a run.** -/
structure Contained (l : Loader) (events : List Event) : Prop where
  /-- A computation ends with a record of what its handler gave, or with an error of its key. -/
  normal : ∀ (c : Nat) (f : Flight) (ending : Ending),
    (l.run events).flights.flights[c]? = some f → f.ending = some ending →
    ∃ comp result, (l.run events).computations[c]? = some comp ∧ comp.key = f.key ∧
      comp.Gives result ∧ ending = .ofResult result
  /-- No computation breaks off. -/
  unbroken : ∀ (c : Nat) (f : Flight) (message : String),
    (l.run events).flights.flights[c]? = some f → f.ending ≠ some (.panicked message)
  /-- Once all computations have ended, none is counted as under way. -/
  settled : (∀ (c : Nat) (f : Flight), (l.run events).flights.flights[c]? = some f →
    f.ending.isSome) → (l.run events).flights.cache.inFlightCount = 0
  /-- The event in which a computation ends with a record keeps that record, whoever waits for it,
  unless the computation was fenced off before. -/
  stored : ∀ (before : List Event) (e : Event) (later : List Event) (c : Nat) (f f' : Flight)
    (r : Record), events = before ++ e :: later →
    (l.run before).flights.flights[c]? = some f → f.ending = none →
    (l.run (before ++ [e])).flights.flights[c]? = some f' → f'.ending = some (.record r) →
    ¬ Fenced l before c → (l.run (before ++ [e])).flights.cache.get? f.key = some ⟨c, r⟩
  /-- A computation that failed has neither a mark nor a record, at any key. -/
  discarded : ∀ (c : Nat) (f : Flight) (error : ImportError),
    (l.run events).flights.flights[c]? = some f → f.ending = some (.failed error) →
    ∀ key, ¬ (l.run events).flights.cache.Marks key c ∧
      ∀ made, (l.run events).flights.cache.get? key = some made → made.computation ≠ c

/-! ## Endings -/

theorem unbroken_run (hl : l.Fresh) (events : List Event)
    (hf : (l.run events).flights.flights[c]? = some f) (message : String) :
    f.ending ≠ some (.panicked message) := by
  intro he
  obtain ⟨comp, result, -, -, -, hr⟩ := normal_run hl events hf he
  cases result <;> cases hr

/-! ## Marks -/

/-- A mark is of a computation that is under way. -/
theorem under_of_marks (hl : l.Fresh) (events : List Event) {key : CacheKey}
    (hm : (l.run events).flights.cache.Marks key c) :
    ∃ f, (l.run events).flights.flights[c]? = some f ∧ f.key = key ∧ f.ending = none := by
  obtain ⟨fingerprint, hk⟩ := hm
  obtain ⟨f, hf, hkey, -, hend⟩ := (sound_flights hl events).mark key c fingerprint hk
  refine ⟨f, hf, hkey, ?_⟩
  rcases hend with hu | ⟨⟨message, hb⟩, -⟩
  · exact hu
  · exact absurd hb (unbroken_run hl events hf message)

/-- A computation that is under way and not fenced off has its mark. -/
theorem marks_of_under (hl : l.Fresh) (events : List Event)
    (hf : (l.run events).flights.flights[c]? = some f) (hu : f.ending = none)
    (hfen : ¬ Fenced l events c) : (l.run events).flights.cache.Marks f.key c := by
  obtain ⟨history, hrun, hcovers⟩ := exists_cache_run hl events
  have sound := sound_flights hl events
  rw [hrun] at hf sound ⊢
  exact (Flights.marks_run_iff hf).2
    ⟨fun h => hfen (hcovers c h), sound.not_settled_of_under hf hu⟩

/-- **A record is kept in the event in which its computation ends.** -/
theorem stored_of_ended (hl : l.Fresh) (before : List Event) (e : Event)
    (hf : (l.run before).flights.flights[c]? = some f) (hu : f.ending = none) {f' : Flight}
    (hf' : (l.run (before ++ [e])).flights.flights[c]? = some f') {r : Record}
    (he : f'.ending = some (.record r)) (hfen : ¬ Fenced l before c) :
    (l.run (before ++ [e])).flights.cache.get? f.key = some ⟨c, r⟩ := by
  have hmark := marks_of_under hl before hf hu hfen
  rw [run_concat] at hf' ⊢
  rcases (turn_after (l.run before) e).cache_event with hsame | ⟨event, hevent, -⟩
  · rw [hsame, hf] at hf'
    cases hf'
    rw [hu] at he
    cases he
  · have step := Flights.step_after (sound_flights hl before) event
    rw [hevent] at hf' ⊢
    obtain ⟨-, hcache⟩ := step.ending_new hf hu hf' he
    rw [Cache.get?_eq_some_iff, hcache, show Flights.cacheAfter (l.run before).flights.cache f.key c
        (.record r) = (l.run before).flights.cache.complete f.key c (some r) from rfl,
      Cache.complete_of_marks hmark, Cache.get?_publish, if_pos rfl]

/-- **Failures are contained in every run of a loader.** -/
theorem contained_run (config : Config) (base : Option Url) (registry : Registry)
    (native : NativeMemo) (modules : ModuleTable) (feed : Feed) (events : List Event) :
    Contained (build config base registry native modules feed) events where
  normal c f ending hf he := normal_run (fresh_build ..) events hf he
  unbroken c f message hf := unbroken_run (fresh_build ..) events hf message
  settled hended := by
    rw [Cache.inFlightCount_eq_zero_iff]
    intro key c hm
    obtain ⟨f, hf, -, hu⟩ := under_of_marks (fresh_build ..) events hm
    have hsome := hended c f hf
    rw [hu] at hsome
    cases hsome
  stored before e later c f f' r _ hf hu hf' he hfen :=
    stored_of_ended (fresh_build ..) before e hf hu hf' he hfen
  discarded c f error hf he key := by
    have hl := fresh_build config base registry native modules feed
    constructor
    · intro hm
      obtain ⟨f', hf', -, hu⟩ := under_of_marks hl events hm
      rw [hf] at hf'
      cases hf'
      rw [hu] at he
      cases he
    · rintro made hmade rfl
      obtain ⟨f', hf', -, hr⟩ := (sound_flights hl events).ready key made
        (Cache.get?_eq_some_iff.1 hmade)
      rw [hf] at hf'
      cases hf'
      rw [he] at hr
      cases hr

end TypedImport.Loader
