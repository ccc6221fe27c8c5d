import TypedImport.Proofs.Cache.History

/-!
# What a computation leaves behind

A computation that has ended, and whose ending has reached everybody who still waited for it, should
leave nothing but its record. One that ends with a record or an error takes its mark away itself. One
that breaks off does not: its mark goes when a request sees the break, and there may be no such request.

**Stranded computations.** `Stranded` is the one way in which a mark stays: the computation broke off,
every request that waited for it was dropped, and nothing has cleared its key. `leftNothing_iff` says
that a computation leaves nothing behind exactly if it is not stranded.

**What becomes of a stranded mark.** The next request for the same content is told of the break and takes
the mark away with that; until then every request for another content is refused
(`Stranded.request_same`, `Stranded.request_other`).
-/

namespace TypedImport.Flights

variable {s : Flights} {key : CacheKey} {fingerprint : String} {n t : Nat} {f : Flight} {tk : Ticket}
  {ending : Ending} {events : List Event}

/-- No request waits for a computation any more: each has been resumed with its ending, or dropped. -/
def Resumed (s : Flights) (n : Nat) : Prop :=
  ∀ (t : Nat) (tk : Ticket), s.tickets[t]? = some tk → tk.flight = n → tk.state ≠ .waiting

/-- **A computation is stranded**: it broke off, its requests were all dropped, and it was not fenced
off. -/
structure Stranded (events : List Event) (n : Nat) : Prop where
  broke : ∃ f message, (run {} events).flights[n]? = some f ∧ f.ending = some (.panicked message)
  abandoned : ∀ (t : Nat) (tk : Ticket), (run {} events).tickets[t]? = some tk → tk.flight = n →
    tk.state = .dropped
  standing : ¬ Fenced events n

/-- **A computation of a key has left nothing behind** but a record, now and in all that may follow. -/
structure LeftNothing (s : Flights) (key : CacheKey) (n : Nat) : Prop where
  /-- Its mark is nowhere. -/
  unmarked : ∀ (later : List Event) (k : CacheKey), ¬ (s.run later).cache.Marks k n
  /-- No request for the key attaches to it, so none is ever told its ending. -/
  unattached : ∀ (later : List Event) (fingerprint : String) (tk : Ticket),
    ((s.run later).request key fingerprint).2.tickets[(s.run later).tickets.length]? = some tk →
    tk.flight ≠ n
  /-- A request for the key that is refused at once is refused for the sake of another computation:
  that one is marked with another content, or is the one whose ending the request is told. -/
  refused : ∀ (later : List Event) (fingerprint : String) (error : ImportError),
    ((s.run later).request key fingerprint).1 = .now (.error error) →
    ∃ m expected, m ≠ n ∧ (s.run later).cache.entries.get? key = some (.inFlight m expected) ∧
      (error = .cacheConsistency key.url key.type key.handler expected fingerprint ∨
        ∃ g ending, (s.run later).flights[m]? = some g ∧ g.ending = some ending ∧
          resultOf m key .joined ending = .error error)
  /-- A request for the key starts a computation if there is no entry. -/
  starts : ∀ (later : List Event) (fingerprint : String),
    (s.run later).cache.entries.get? key = none →
    ((s.run later).request key fingerprint).1 = .later (s.run later).tickets.length .computed ∧
      ((s.run later).request key fingerprint).2.flights =
        (s.run later).flights ++ [⟨key, fingerprint, none⟩]

/-! ## Marks that go for good -/

/-- **A mark that is gone stays gone.** -/
theorem not_marks_append (hf : (run {} events).flights[n]? = some f)
    (hm : ¬ (run {} events).cache.Marks f.key n) (later : List Event) (k : CacheKey) :
    ¬ ((run {} events).run later).cache.Marks k n := by
  rw [← run_append]
  rintro ⟨fingerprint, hk⟩
  obtain ⟨f', hf', hkey, -⟩ := (sound_run (events ++ later)).mark k n fingerprint hk
  have grows := (sound_run events).grows later
  rw [← run_append] at grows
  obtain ⟨f'', hf'', hkey', -⟩ := grows.flight n f hf
  rw [hf'] at hf''
  cases hf''
  have hmark : (run {} (events ++ later)).cache.Marks f'.key n := ⟨fingerprint, hkey ▸ hk⟩
  obtain ⟨hfen, hset⟩ := (marks_run_iff hf').1 hmark
  refine hm ((marks_run_iff hf).2 ⟨fun h => hfen (h.append later), fun h => hset (h.grows grows)⟩)

/-- After its ending and the last resumed request, a computation has its mark only if it is stranded. -/
theorem marks_iff_stranded (hf : (run {} events).flights[n]? = some f)
    (he : f.ending = some ending) (hr : Resumed (run {} events) n) :
    (run {} events).cache.Marks f.key n ↔ Stranded events n := by
  rw [marks_run_iff hf]
  constructor
  · rintro ⟨hfen, hset⟩
    refine ⟨?_, fun t tk ht hn => ?_, hfen⟩
    · cases ending with
      | panicked message => exact ⟨f, message, hf, he⟩
      | record r => exact absurd (.inl ⟨f, _, hf, he, by simp⟩) hset
      | failed error => exact absurd (.inl ⟨f, _, hf, he, by simp⟩) hset
    · cases hs : tk.state with
      | dropped => rfl
      | waiting => exact absurd hs (hr t tk ht hn)
      | answered result => exact absurd (.inr ⟨t, tk, result, ht, hn, hs⟩) hset
  · rintro ⟨⟨f', message, hf', hb⟩, hdropped, hfen⟩
    rw [hf] at hf'
    cases hf'
    refine ⟨hfen, ?_⟩
    rintro (⟨f', old, hf', hold, hne⟩ | ⟨t, tk, result, ht, hn, ha⟩)
    · rw [hf] at hf'
      cases hf'
      rw [hb] at hold
      cases hold
      exact hne message rfl
    · rw [hdropped t tk ht hn] at ha
      cases ha

/-! ## Requests without the mark -/

theorem Sound.flight_ne_of_not_marks (h : s.Sound) (hlt : n < s.flights.length)
    (hm : ¬ s.cache.Marks key n)
    (ht : (s.request key fingerprint).2.tickets[s.tickets.length]? = some tk) : tk.flight ≠ n := by
  rcases (step_request h key fingerprint).ticket_new ht with ⟨-, hl, -⟩ | ⟨-, -, hnew, -⟩
  · rintro rfl
    exact hm ⟨fingerprint, Cache.lookup_eq_join_iff.1 hl⟩
  · omega

theorem Sound.refused_of_not_marks (h : s.Sound) (hm : ¬ s.cache.Marks key n) {error : ImportError}
    (hr : (s.request key fingerprint).1 = .now (.error error)) :
    ∃ m expected, m ≠ n ∧ s.cache.entries.get? key = some (.inFlight m expected) ∧
      (error = .cacheConsistency key.url key.type key.handler expected fingerprint ∨
        ∃ g ending, s.flights[m]? = some g ∧ g.ending = some ending ∧
          resultOf m key .joined ending = .error error) := by
  have hother : ∀ m expected, s.cache.entries.get? key = some (.inFlight m expected) → m ≠ n := by
    rintro m expected hk rfl
    exact hm ⟨expected, hk⟩
  cases hl : s.cache.lookup key fingerprint with
  | hit made =>
    rw [request_of_hit hl] at hr
    cases hr
  | conflict expected =>
    obtain ⟨⟨m, hk⟩, -⟩ := Cache.lookup_eq_conflict_iff.1 hl
    rw [request_of_conflict hl] at hr
    cases hr
    exact ⟨m, expected, hother m _ hk, hk, .inl rfl⟩
  | join m =>
    have hk := Cache.lookup_eq_join_iff.1 hl
    obtain ⟨g, hg, hkey, -⟩ := h.mark key m fingerprint hk
    cases he : g.ending with
    | none =>
      rw [request_of_join hl hg he] at hr
      cases hr
    | some ending =>
      rw [request_of_late_join hl hg he, hkey] at hr
      exact ⟨m, fingerprint, hother m _ hk, hk, .inr ⟨g, ending, hg, he, Reply.now.inj hr⟩⟩
  | start =>
    rw [request_of_start hl] at hr
    cases hr

/-- **A computation leaves nothing behind exactly if it is not stranded**, once it has ended and nobody
waits for it any more. -/
theorem leftNothing_iff (hf : (run {} events).flights[n]? = some f) (he : f.ending = some ending)
    (hr : Resumed (run {} events) n) :
    LeftNothing (run {} events) f.key n ↔ ¬ Stranded events n := by
  rw [← marks_iff_stranded hf he hr]
  constructor
  · exact fun h => h.unmarked [] f.key
  · intro hm
    have unmarked := not_marks_append hf hm
    have sound := fun later => (sound_run events).run later
    refine ⟨unmarked, fun later fingerprint tk ht => ?_, fun later fingerprint error hrep => ?_,
      fun later fingerprint hnone => ?_⟩
    · obtain ⟨f', hf', -⟩ := ((sound_run events).grows later).flight n f hf
      exact (sound later).flight_ne_of_not_marks (List.getElem?_eq_some_iff.1 hf').1
        (unmarked later f.key) ht
    · exact (sound later).refused_of_not_marks (unmarked later f.key) hrep
    · rw [request_of_start (Cache.lookup_eq_start_iff.2 (.inl hnone))]
      exact ⟨rfl, rfl⟩

/-- A computation that broke off while a request waited for it leaves nothing behind. -/
theorem leftNothing_of_seen_break :
    LeftNothing (run {} [.request ⟨"file:///a.csv", ⟨1⟩, "csv"⟩ "old", .finish 0 (.panicked "boom"),
      .resume 0]) ⟨"file:///a.csv", ⟨1⟩, "csv"⟩ 0 := by
  refine (leftNothing_iff (n := 0) (f := ⟨⟨"file:///a.csv", ⟨1⟩, "csv"⟩, "old", some (.panicked "boom")⟩)
    rfl rfl ?_).2 fun h => ?_
  · rintro (_ | t) tk ht -
    · cases ht
      simp
    · cases ht
  · have := h.abandoned 0 _ rfl rfl
    cases this

/-- **A request that is dropped before its computation breaks off leaves a mark behind.** The next
request for the content is told of the break, though its own computation would have been another, and
one for another content is refused. -/
theorem not_leftNothing_of_dropped :
    let key : CacheKey := ⟨"file:///a.csv", ⟨1⟩, "csv"⟩
    let s := run {} [.request key "old", .drop 0, .finish 0 (.panicked "boom")]
    s.flights[0]? = some ⟨key, "old", some (.panicked "boom")⟩ ∧ Resumed s 0 ∧
      s.cache.entries.get? key = some (.inFlight 0 "old") ∧ ¬ LeftNothing s key 0 ∧
      (s.request key "old").1 = .now (.error (panicError key "boom")) ∧
      (s.request key "new").1 =
        .now (.error (.cacheConsistency key.url key.type key.handler "old" "new")) := by
  refine ⟨rfl, ?_, rfl, fun h => ?_, rfl, rfl⟩
  swap
  · exact h.unmarked [] ⟨"file:///a.csv", ⟨1⟩, "csv"⟩ ⟨"old", rfl⟩
  rintro (_ | t) tk ht -
  · cases ht
    simp
  · cases ht

/-! ## The mark of a stranded computation -/

theorem Stranded.entry (h : Stranded events n) (hf : (run {} events).flights[n]? = some f) :
    ∃ message, f.ending = some (.panicked message) ∧
      (run {} events).cache.entries.get? f.key = some (.inFlight n f.fingerprint) := by
  obtain ⟨f', message, hf', hb⟩ := h.broke
  rw [hf] at hf'
  cases hf'
  have hr : Resumed (run {} events) n := fun t tk ht hn => by simp [h.abandoned t tk ht hn]
  obtain ⟨fingerprint, hk⟩ := (marks_iff_stranded hf hb hr).2 h
  obtain ⟨f', hf', -, hp, -⟩ := (sound_run events).mark f.key n fingerprint hk
  rw [hf] at hf'
  cases hf'
  exact ⟨message, hb, hp ▸ hk⟩

/-- **A request for the content of a stranded computation is told of its break.** -/
theorem Stranded.request_same (h : Stranded events n) (hf : (run {} events).flights[n]? = some f) :
    ∃ message, f.ending = some (.panicked message) ∧
      ((run {} events).request f.key f.fingerprint).1 = .now (.error (panicError f.key message)) := by
  obtain ⟨message, hb, hk⟩ := h.entry hf
  refine ⟨message, hb, ?_⟩
  rw [request_of_late_join (Cache.lookup_eq_join_iff.2 hk) hf hb]
  rfl

/-- **A request for another content is refused for the sake of a stranded computation.** -/
theorem Stranded.request_other (h : Stranded events n) (hf : (run {} events).flights[n]? = some f)
    (hne : f.fingerprint ≠ fingerprint) :
    (run {} events).request f.key fingerprint =
      (.now (.error (.cacheConsistency f.key.url f.key.type f.key.handler f.fingerprint fingerprint)),
        run {} events) := by
  obtain ⟨message, -, hk⟩ := h.entry hf
  exact request_of_conflict (Cache.lookup_eq_conflict_iff.2 ⟨⟨n, hk⟩, hne⟩)

end TypedImport.Flights
