import TypedImport.Proofs.Cache.Changes

/-!
# Clears and invalidations are fences

A computation that was started before a clear, or before an invalidation of its asset, goes on for those
who wait for it and has no more to do with the cache. However many computations of its key are started and
end meanwhile, and whenever and however it ends itself, no entry is made, moved or lost by it.

**What is proved.** `ShutOut` has the parts of this as fields, and `shutOut_run` gives them for every
computation of a run that is fenced off. An old computation is never taken for a newer one of its key:
the mark of a computation does not come back (`marks_run_iff`), nor does a record that a fence has taken
away (`not_fenced_of_ready`).

**Words.** A mark carries a generation, which is a word and counts the computations from 1. As long as
there are fewer computations than words, finding a mark by its generation is finding it by the number of
its computation (`Sound.isCurrent_iff_generation`).
-/

namespace TypedImport.Flights

variable {s : Flights} {key : CacheKey} {n m t : Nat} {f : Flight} {tk : Ticket} {made : Made}
  {ending : Ending} {events : List Event}

/-! ## Generations -/

/-- **The generation of a computation**, by which its ending finds its mark. -/
def generation (n : Nat) : UInt64 :=
  UInt64.ofNat n + 1

theorem generation_inj (hn : n < UInt64.size) (hm : m < UInt64.size) :
    generation n = generation m ↔ n = m := by
  constructor
  · intro h
    have hword : UInt64.ofNat n = UInt64.ofNat m := (UInt64.add_left_inj 1).1 h
    have hnat := congrArg UInt64.toNat hword
    rwa [UInt64.toNat_ofNat_of_lt' hn, UInt64.toNat_ofNat_of_lt' hm] at hnat
  · rintro rfl
    rfl

/-- **Comparing generations is comparing numbers** as long as words suffice: an ending finds its mark by
the word exactly if the mark is its own. -/
theorem Sound.isCurrent_iff_generation (h : s.Sound) (few : s.flights.length < UInt64.size)
    (hn : n < s.flights.length) :
    s.cache.isCurrent key n = true ↔
      ∃ m fingerprint, s.cache.entries.get? key = some (.inFlight m fingerprint) ∧
        generation m = generation n := by
  rw [Cache.isCurrent_iff]
  constructor
  · rintro ⟨fingerprint, hk⟩
    exact ⟨n, fingerprint, hk, rfl⟩
  · rintro ⟨m, fingerprint, hk, heq⟩
    obtain ⟨f, hf, -⟩ := h.mark key m fingerprint hk
    have hm : m < s.flights.length := (List.getElem?_eq_some_iff.1 hf).1
    rw [generation_inj (Nat.lt_trans hm few) (Nat.lt_trans hn few)] at heq
    subst heq
    exact ⟨fingerprint, hk⟩

/-! ## What waits for a computation that has ended -/

/-- **A request has been told the outcome of a computation that has ended**, unless it was dropped, or is
told when it is resumed. -/
theorem Sound.told_of_ended (h : s.Sound) (ht : s.tickets[t]? = some tk)
    (hf : s.flights[tk.flight]? = some f) (he : f.ending = some ending) :
    tk.state = .dropped ∨ tk.state = .answered (resultOf tk.flight f.key tk.status ending) ∨
      tk.state = .waiting ∧ (s.resume t).1 = some (resultOf tk.flight f.key tk.status ending) := by
  cases hs : tk.state with
  | dropped => exact .inl rfl
  | waiting =>
    refine .inr (.inr ⟨rfl, ?_⟩)
    rw [resume_of_ended ht hs hf he]
  | answered result =>
    obtain ⟨f', hf', hans⟩ := h.ticket t tk ht
    rw [hf] at hf'
    cases hf'
    obtain ⟨ending', he', hresult⟩ := hans result hs
    rw [he] at he'
    cases he'
    exact .inr (.inl (by rw [hresult]))

/-! ## Fences -/

theorem Fenced.flight (h : Fenced events n) : ∃ f, (run {} events).flights[n]? = some f := by
  obtain ⟨before, e, later, rfl, f, hf, -⟩ := h
  obtain ⟨f', hf', -⟩ := ((sound_run before).grows (e :: later)).flight n f hf
  rw [← run_append] at hf'
  exact ⟨f', hf'⟩

/-- No mark of a computation outlives a fence, at any key. -/
theorem Fenced.not_marks (h : Fenced events n) (key : CacheKey) :
    ¬ (run {} events).cache.Marks key n := by
  rintro ⟨fingerprint, hk⟩
  obtain ⟨f, hf, hkey, -⟩ := (sound_run events).mark key n fingerprint hk
  have hmark : (run {} events).cache.Marks f.key n := ⟨fingerprint, hkey ▸ hk⟩
  exact ((marks_run_iff hf).1 hmark).1 h

/-- **A ready record is of a computation that is not fenced off.** It became ready while its mark stood,
and no event since then was a fence of its key. -/
theorem not_fenced_of_ready (hr : (run {} events).cache.get? key = some made) :
    ¬ Fenced events made.computation := by
  induction events using List.reverseRecOn with
  | nil => exact not_happened_nil
  | append_singleton events e ih =>
    have sound := sound_run events
    rw [run_concat] at hr
    rw [Fenced, happened_concat]
    rcases (change_after sound e).ready hr with ⟨hold, hopen⟩ | ⟨f, hf, rfl, -, hmark, rfl⟩
    · obtain ⟨f, hf, hkey, -⟩ := sound.ready key made (Cache.get?_eq_some_iff.1 hold)
      rintro (hfen | ⟨f', hf', hc⟩)
      · exact ih hold hfen
      · rw [hf] at hf'
        cases hf'
        exact hopen (hkey ▸ hc)
    · rintro (hfen | ⟨f', -, hc⟩)
      · exact ((marks_run_iff hf).1 hmark).1 hfen
      · exact hc

/-- **A computation is shut out of the cache.** -/
structure ShutOut (s : Flights) (n : Nat) : Prop where
  /-- No record of it is kept, under any key. -/
  unstored : ∀ (key : CacheKey) (made : Made), s.cache.get? key = some made → made.computation ≠ n
  /-- No mark can be taken for its own: none has its generation. -/
  unmarked : ∀ (key : CacheKey) (m : Nat) (fingerprint : String),
    s.cache.entries.get? key = some (.inFlight m fingerprint) → generation m ≠ generation n
  /-- Its ending leaves all entries as they are, whatever it ends with. -/
  ending : ∀ ending, (s.finish n ending).cache = s.cache
  /-- So does a request that sees how it has ended. -/
  sight : ∀ (t : Nat) (tk : Ticket), s.tickets[t]? = some tk → tk.flight = n →
    (s.resume t).2.cache = s.cache
  /-- No request attaches to it any more. -/
  unattached : ∀ (key : CacheKey) (fingerprint : String) (tk : Ticket),
    (s.request key fingerprint).2.tickets[s.tickets.length]? = some tk → tk.flight ≠ n
  /-- Once it has ended, each of its requests that was not dropped has been told its outcome, or is told
  it when resumed. -/
  told : ∀ (t : Nat) (tk : Ticket) (f : Flight) (ending : Ending), s.tickets[t]? = some tk →
    tk.flight = n → s.flights[n]? = some f → f.ending = some ending → tk.state ≠ .dropped →
    tk.state = .answered (resultOf n f.key tk.status ending) ∨
      tk.state = .waiting ∧ (s.resume t).1 = some (resultOf n f.key tk.status ending)

theorem finish_cache_of_not_marks (h : ∀ key, ¬ s.cache.Marks key n) (ending : Ending) :
    (s.finish n ending).cache = s.cache := by
  have step := step_finish (s := s) n ending
  generalize s.finish n ending = s' at step
  cases step with
  | finished flight under => exact cacheAfter_of_not_marks (h _) ending
  | unfinished => rfl

theorem resume_cache_of_not_marks (ht : s.tickets[t]? = some tk)
    (h : ∀ key, ¬ s.cache.Marks key tk.flight) : (s.resume t).2.cache = s.cache := by
  have step := step_resume (s := s) t
  generalize (s.resume t).2 = s' at step
  cases step with
  | @resumed _ tk' f ending ticket waits flight ended =>
    rw [ht] at ticket
    cases ticket
    rw [afterSight_of_not_marks (by rw [setTicket_cache]; exact h f.key), setTicket_cache]
  | unresumed => rfl

/-- **A clear or an invalidation shuts out every computation that it covers**, for the rest of the run. -/
theorem shutOut_run (events : List Event) (few : (run {} events).flights.length < UInt64.size)
    (fenced : Fenced events n) : ShutOut (run {} events) n := by
  have sound := sound_run events
  have unmarked := fenced.not_marks
  obtain ⟨f, hf⟩ := fenced.flight
  have hn := (List.getElem?_eq_some_iff.1 hf).1
  constructor
  case unstored =>
    intro key made hr hown
    subst hown
    exact not_fenced_of_ready hr fenced
  case unmarked =>
    intro key m fingerprint hk heq
    have hcurrent := (sound.isCurrent_iff_generation few hn).2 ⟨m, fingerprint, hk, heq⟩
    exact unmarked key (Cache.isCurrent_iff.1 hcurrent)
  case ending => exact finish_cache_of_not_marks unmarked
  case sight =>
    intro t tk ht hflight
    exact resume_cache_of_not_marks ht (hflight ▸ unmarked)
  case unattached =>
    intro key fingerprint tk ht hown
    -- a request attaches to a computation whose mark it has found, or to one of its own
    rcases (step_request sound key fingerprint).ticket_new ht with ⟨-, hjoin, -⟩ | ⟨-, -, hnew, -⟩
    · subst hown
      exact unmarked key ⟨fingerprint, Cache.lookup_eq_join_iff.1 hjoin⟩
    · omega
  case told =>
    intro t tk f ending ht hflight hf he hd
    subst hflight
    exact (sound.told_of_ended ht hf he).resolve_left hd

/-- The old computation ends after a newer one of its key, which the clear has let start. -/
theorem shutOut_of_clear :
    ShutOut (run {} [.request ⟨"file:///a.csv", ⟨1⟩, "csv"⟩ "old", .clear,
      .request ⟨"file:///a.csv", ⟨1⟩, "csv"⟩ "new",
      .finish 1 (.record ⟨[], .inline, ⟨"file:///a.csv", ⟨1⟩, "csv"⟩, "new"⟩),
      .finish 0 (.failed (.registry .noTypes))]) 0 :=
  shutOut_run _ (by decide)
    ⟨[.request ⟨"file:///a.csv", ⟨1⟩, "csv"⟩ "old"], .clear, _, rfl, _, rfl, trivial⟩

end TypedImport.Flights
