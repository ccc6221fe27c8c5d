import TypedImport.Proofs.Cache.Steps

/-!
# What every run of a cache keeps

Each step keeps the state sound (`Step.sound`) and only adds to what has happened (`Step.grows`): a
computation stays what it is and keeps its ending, a request stays attached to its computation and
keeps its answer. Both carry over to runs of any length (`sound_run`, `grows_run`).
-/

namespace TypedImport.Flights

variable {s s' : Flights} {key : CacheKey} {fingerprint : String} {n t : Nat} {f : Flight}
  {tk : Ticket} {ending : Ending} {e : Event}

/-- **What has happened stays so**: computations and requests go on, and no ending or answer is taken
back. -/
structure Grows (s s' : Flights) : Prop where
  flight : ∀ (n : Nat) (f : Flight), s.flights[n]? = some f →
    ∃ f' : Flight, s'.flights[n]? = some f' ∧ f'.key = f.key ∧ f'.fingerprint = f.fingerprint ∧
      ∀ ending, f.ending = some ending → f'.ending = some ending
  ticket : ∀ (t : Nat) (tk : Ticket), s.tickets[t]? = some tk →
    ∃ tk' : Ticket, s'.tickets[t]? = some tk' ∧ tk'.flight = tk.flight ∧ tk'.status = tk.status ∧
      (tk.state ≠ .waiting → tk'.state = tk.state)

theorem Grows.refl (s : Flights) : Grows s s where
  flight _ f hf := ⟨f, hf, rfl, rfl, fun _ he => he⟩
  ticket _ tk ht := ⟨tk, ht, rfl, rfl, fun _ => rfl⟩

theorem Grows.trans {s'' : Flights} (h : Grows s s') (h' : Grows s' s'') : Grows s s'' where
  flight n f hf := by
    obtain ⟨f', hf', hk, hp, he⟩ := h.flight n f hf
    obtain ⟨f'', hf'', hk', hp', he'⟩ := h'.flight n f' hf'
    exact ⟨f'', hf'', hk'.trans hk, hp'.trans hp, fun ending hd => he' ending (he ending hd)⟩
  ticket t tk ht := by
    obtain ⟨tk', ht', hn, hs, hw⟩ := h.ticket t tk ht
    obtain ⟨tk'', ht'', hn', hs', hw'⟩ := h'.ticket t tk' ht'
    refine ⟨tk'', ht'', hn'.trans hn, hs'.trans hs, fun hne => ?_⟩
    have hkept := hw hne
    rw [hw' (by rw [hkept]; exact hne), hkept]

theorem Grows.length_le (h : Grows s s') : s.flights.length ≤ s'.flights.length := by
  by_cases hz : s.flights.length = 0
  · omega
  · obtain ⟨f', hf', -⟩ := h.flight (s.flights.length - 1) _ (List.getElem?_eq_getElem (by omega))
    have := (List.getElem?_eq_some_iff.1 hf').1
    omega

/-! ## Marks and records after an ending -/

theorem get?_afterSight_inFlight (k : CacheKey) (m : Nat) (fp : String) :
    (s.afterSight n key ending).cache.entries.get? k = some (.inFlight m fp) ↔
      s.cache.entries.get? k = some (.inFlight m fp) ∧
        ¬ ((∃ message, ending = .panicked message) ∧ k = key ∧ m = n) := by
  cases ending with
  | panicked message =>
    show (s.cache.complete key n none).entries.get? k = _ ↔ _
    rw [Cache.get?_complete_inFlight]
    simp
  | record r => simp [afterSight]
  | failed error => simp [afterSight]

theorem get?_afterSight_ready {k : CacheKey} {made : Made}
    (h : (s.afterSight n key ending).cache.entries.get? k = some (.ready made)) :
    s.cache.entries.get? k = some (.ready made) := by
  cases ending with
  | panicked message =>
    rcases Cache.get?_complete_ready none made h with ⟨-, -, hr, -⟩ | hold
    · cases hr
    · exact hold
  | record r => exact h
  | failed error => exact h

theorem get?_cacheAfter_inFlight (c : Cache) (k : CacheKey) (m : Nat) (fp : String) :
    (cacheAfter c key n ending).entries.get? k = some (.inFlight m fp) ↔
      c.entries.get? k = some (.inFlight m fp) ∧
        ((∃ message, ending = .panicked message) ∨ ¬ (k = key ∧ m = n)) := by
  cases ending with
  | record r =>
    show (c.complete key n (some r)).entries.get? k = _ ↔ _
    rw [Cache.get?_complete_inFlight]
    simp
  | failed error =>
    show (c.complete key n none).entries.get? k = _ ↔ _
    rw [Cache.get?_complete_inFlight]
    simp
  | panicked message => simp [cacheAfter]

theorem get?_cacheAfter_ready {c : Cache} {k : CacheKey} {made : Made}
    (h : (cacheAfter c key n ending).entries.get? k = some (.ready made)) :
    k = key ∧ ending = .record made.record ∧ made.computation = n ∨
      c.entries.get? k = some (.ready made) := by
  cases ending with
  | record r =>
    rcases Cache.get?_complete_ready (some r) made h with ⟨hk, -, hr, hn⟩ | hold
    · cases hr
      exact .inl ⟨hk, rfl, hn⟩
    · exact .inr hold
  | failed error =>
    rcases Cache.get?_complete_ready none made h with ⟨-, -, hr, -⟩ | hold
    · cases hr
    · exact .inr hold
  | panicked message => exact .inr h

/-! ## Computations and requests after a step -/

theorem getElem?_modify_of_some {α : Type} {xs : List α} {x : α} (h : xs[n]? = some x) (g : α → α)
    (m : Nat) : (xs.modify n g)[m]? = if m = n then some (g x) else xs[m]? := by
  rw [List.getElem?_modify]
  by_cases hm : m = n
  · subst hm
    simp [h]
  · simp [hm, Ne.symm hm]

theorem getElem?_finished (hf : s.flights[n]? = some f) (m : Nat) :
    (s.flights.modify n fun f => { f with ending := some ending })[m]? =
      if m = n then some { f with ending := some ending } else s.flights[m]? :=
  getElem?_modify_of_some hf _ m

theorem getElem?_setTicket (ht : s.tickets[t]? = some tk) (state : TicketState) (i : Nat) :
    (s.setTicket t state).tickets[i]? =
      if i = t then some { tk with state := state } else s.tickets[i]? :=
  getElem?_modify_of_some ht _ i

theorem Grows.addTicket (s : Flights) (tk : Ticket) : Grows s (s.addTicket tk) where
  flight _ f hf := ⟨f, hf, rfl, rfl, fun _ he => he⟩
  ticket t tk' ht := by
    refine ⟨tk', ?_, rfl, rfl, fun _ => rfl⟩
    rw [addTicket_tickets, List.getElem?_append_left (List.getElem?_eq_some_iff.1 ht).1, ht]

theorem Grows.afterSight (s : Flights) (n : Nat) (key : CacheKey) (ending : Ending) :
    Grows s (s.afterSight n key ending) where
  flight n f hf := ⟨f, by rw [afterSight_flights, hf], rfl, rfl, fun _ he => he⟩
  ticket t tk ht := ⟨tk, by rw [afterSight_tickets, ht], rfl, rfl, fun _ => rfl⟩

theorem Grows.launch (s : Flights) (key : CacheKey) (fingerprint : String) :
    Grows s (s.launch key fingerprint) where
  flight n f hf := by
    refine ⟨f, ?_, rfl, rfl, fun _ he => he⟩
    rw [launch_flights, List.getElem?_append_left (List.getElem?_eq_some_iff.1 hf).1, hf]
  ticket t tk ht := ⟨tk, ht, rfl, rfl, fun _ => rfl⟩

theorem Grows.setTicket (ht : s.tickets[t]? = some tk) (hw : tk.state = .waiting)
    (state : TicketState) : Grows s (s.setTicket t state) where
  flight _ f hf := ⟨f, hf, rfl, rfl, fun _ he => he⟩
  ticket i tk' hi := by
    rw [getElem?_setTicket ht]
    by_cases h : i = t
    · subst h
      rw [ht] at hi
      cases hi
      exact ⟨_, if_pos rfl, rfl, rfl, fun hne => absurd hw hne⟩
    · exact ⟨tk', by rw [if_neg h, hi], rfl, rfl, fun _ => rfl⟩

theorem Grows.ofCache (s : Flights) (c : Cache) : Grows s { s with cache := c } where
  flight _ f hf := ⟨f, hf, rfl, rfl, fun _ he => he⟩
  ticket _ tk ht := ⟨tk, ht, rfl, rfl, fun _ => rfl⟩

/-- **A step takes nothing back.** -/
theorem Step.grows (h : Step s e s') : Grows s s' := by
  cases h with
  | answered => exact .refl s
  | joined => exact .addTicket ..
  | joinedLate => exact (Grows.addTicket ..).trans (.afterSight ..)
  | started => exact (Grows.launch ..).trans (.addTicket ..)
  | @finished n f ending flight under =>
    refine ⟨fun m f' hf' => ?_, fun t tk ht => ⟨tk, ht, rfl, rfl, fun _ => rfl⟩⟩
    rw [getElem?_finished flight]
    by_cases hm : m = n
    · subst hm
      rw [flight] at hf'
      cases hf'
      refine ⟨_, if_pos rfl, rfl, rfl, fun old hold => ?_⟩
      rw [under] at hold
      cases hold
    · exact ⟨f', by rw [if_neg hm, hf'], rfl, rfl, fun _ he => he⟩
  | unfinished => exact .refl s
  | resumed ticket waits => exact (Grows.setTicket ticket waits _).trans (.afterSight ..)
  | unresumed => exact .refl s
  | dropped ticket waits => exact .setTicket ticket waits _
  | undropped => exact .refl s
  | cleared => exact .ofCache s _
  | invalidated => exact .ofCache s _

/-! ## Soundness after a step -/

theorem Sound.ofWaiting (h : s.Sound) {tickets : List Ticket}
    (ht : ∀ (t : Nat) (tk : Ticket), tickets[t]? = some tk →
      s.tickets[t]? = some tk ∨
        (∃ f, s.flights[tk.flight]? = some f) ∧ ∀ result, tk.state ≠ .answered result) :
    Sound { s with tickets := tickets } where
  mark key n fingerprint hm := by
    obtain ⟨f, hf, hk, hp, he⟩ := h.mark key n fingerprint hm
    refine ⟨f, hf, hk, hp, he.imp_right fun ⟨hb, hu⟩ => ⟨hb, fun t tk result htk hn => ?_⟩⟩
    rcases ht t tk htk with hold | ⟨-, hne⟩
    · exact hu t tk result hold hn
    · exact hne result
  ready := h.ready
  ticket t tk htk := by
    rcases ht t tk htk with hold | ⟨⟨f, hf⟩, hne⟩
    · exact h.ticket t tk hold
    · exact ⟨f, hf, fun result ha => absurd ha (hne result)⟩

theorem Sound.not_inFlight_afterSight (h : s.Sound) (hf : s.flights[n]? = some f)
    (he : f.ending = some ending) (seen : Flights) (hc : seen.cache = s.cache) (k : CacheKey)
    (fp : String) :
    (seen.afterSight n f.key ending).cache.entries.get? k ≠ some (.inFlight n fp) := by
  intro hm
  rw [get?_afterSight_inFlight, hc] at hm
  obtain ⟨hm, hkept⟩ := hm
  obtain ⟨f', hf', hk, -, hend⟩ := h.mark k n fp hm
  rw [hf] at hf'
  cases hf'
  rcases hend with hnone | ⟨⟨message, hb⟩, -⟩
  · rw [he] at hnone
    cases hnone
  · rw [he] at hb
    cases hb
    exact hkept ⟨⟨message, rfl⟩, hk.symm, rfl⟩

/-- **Seeing an ending keeps the state sound.** The answers that are new are answers of the
computation that has ended; its mark goes with them. -/
theorem Sound.ofSight (h : s.Sound) (hf : s.flights[n]? = some f) (he : f.ending = some ending)
    {tickets : List Ticket}
    (ht : ∀ (t : Nat) (tk : Ticket), tickets[t]? = some tk →
      s.tickets[t]? = some tk ∨
        tk.flight = n ∧ tk.state = .answered (resultOf n f.key tk.status ending)) :
    (({ s with tickets := tickets } : Flights).afterSight n f.key ending).Sound where
  mark key m fingerprint hm := by
    have hne : m ≠ n := fun heq =>
      h.not_inFlight_afterSight hf he { s with tickets := tickets } rfl key fingerprint (heq ▸ hm)
    obtain ⟨f', hf', hk, hp, hend⟩ := h.mark key m fingerprint ((get?_afterSight_inFlight ..).1 hm).1
    refine ⟨f', by simpa using hf', hk, hp, hend.imp_right fun ⟨hb, hu⟩ => ⟨hb, ?_⟩⟩
    intro t tk result htk hn
    rw [afterSight_tickets] at htk
    rcases ht t tk htk with hold | ⟨hown, -⟩
    · exact hu t tk result hold hn
    · exact absurd (hn.symm.trans hown) hne
  ready key made hr := by
    obtain ⟨f', hf', hk, hend⟩ := h.ready key made
      (get?_afterSight_ready (s := { s with tickets := tickets }) hr)
    exact ⟨f', by simpa using hf', hk, hend⟩
  ticket t tk htk := by
    rw [afterSight_tickets] at htk
    rw [afterSight_flights]
    rcases ht t tk htk with hold | ⟨hown, hans⟩
    · exact h.ticket t tk hold
    · refine ⟨f, by rw [hown, hf], fun result hres => ⟨ending, he, ?_⟩⟩
      rw [hans] at hres
      cases hres
      rw [hown]

theorem Sound.launch (h : s.Sound) (key : CacheKey) (fingerprint : String) :
    (s.launch key fingerprint).Sound where
  mark k n fp hm := by
    rw [launch_cache, Cache.get?_start] at hm
    split at hm
    next hk =>
      cases hm
      exact ⟨⟨key, fingerprint, none⟩, by simp, hk.symm, rfl, .inl rfl⟩
    next hk =>
      obtain ⟨f, hf, hrest⟩ := h.mark k n fp hm
      refine ⟨f, ?_, hrest⟩
      rw [launch_flights, List.getElem?_append_left (List.getElem?_eq_some_iff.1 hf).1, hf]
  ready k made hr := by
    rw [launch_cache, Cache.get?_start] at hr
    split at hr
    next hk => cases hr
    next hk =>
      obtain ⟨f, hf, hrest⟩ := h.ready k made hr
      refine ⟨f, ?_, hrest⟩
      rw [launch_flights, List.getElem?_append_left (List.getElem?_eq_some_iff.1 hf).1, hf]
  ticket t tk ht := by
    obtain ⟨f, hf, hrest⟩ := h.ticket t tk ht
    refine ⟨f, ?_, hrest⟩
    rw [launch_flights, List.getElem?_append_left (List.getElem?_eq_some_iff.1 hf).1, hf]

/-- **An ending keeps the state sound.** Nobody has seen a computation that was under way, so a mark
that a break leaves is of one that broke off unseen. -/
theorem Sound.finish (h : s.Sound) (hf : s.flights[n]? = some f) (hu : f.ending = none)
    (ending : Ending) :
    Sound { s with
      cache := cacheAfter s.cache f.key n ending
      flights := s.flights.modify n fun f => { f with ending := some ending } } where
  mark key m fingerprint hm := by
    obtain ⟨hold, hkept⟩ := (get?_cacheAfter_inFlight ..).1 hm
    obtain ⟨f', hf', hk, hp, hend⟩ := h.mark key m fingerprint hold
    show ∃ f'', (s.flights.modify n _)[m]? = some f'' ∧ _
    rw [getElem?_finished hf]
    by_cases hmn : m = n
    · subst hmn
      rw [hf] at hf'
      cases hf'
      refine ⟨_, if_pos rfl, hk, hp, .inr ⟨?_, ?_⟩⟩
      · rcases hkept with ⟨message, hb⟩ | hne
        · exact ⟨message, by rw [hb]⟩
        · exact absurd ⟨hk.symm, rfl⟩ hne
      · -- an answer would be the ending of a computation that is under way
        rintro t tk result htk rfl hans
        obtain ⟨f', hf', ha⟩ := h.ticket t tk htk
        obtain ⟨old, hold, -⟩ := ha result hans
        rw [hf] at hf'
        cases hf'
        rw [hu] at hold
        cases hold
    · exact ⟨f', by rw [if_neg hmn, hf'], hk, hp, hend⟩
  ready key made hr := by
    show ∃ f'', (s.flights.modify n _)[made.computation]? = some f'' ∧ _
    rw [getElem?_finished hf]
    rcases get?_cacheAfter_ready hr with ⟨hk, hrec, hn⟩ | hold
    · exact ⟨_, if_pos hn, hk.symm, by rw [hrec]⟩
    · obtain ⟨f', hf', hk, hend⟩ := h.ready key made hold
      have hne : made.computation ≠ n := by
        rintro heq
        rw [heq, hf] at hf'
        cases hf'
        rw [hu] at hend
        cases hend
      exact ⟨f', by rw [if_neg hne, hf'], hk, hend⟩
  ticket t tk ht := by
    obtain ⟨f', hf', ha⟩ := h.ticket t tk ht
    show ∃ f'', (s.flights.modify n _)[tk.flight]? = some f'' ∧ _
    rw [getElem?_finished hf]
    by_cases hn : tk.flight = n
    · refine ⟨_, if_pos hn, fun result hans => ?_⟩
      obtain ⟨old, hold, -⟩ := ha result hans
      rw [hn, hf] at hf'
      cases hf'
      rw [hu] at hold
      cases hold
    · exact ⟨f', by rw [if_neg hn, hf'], ha⟩

theorem Sound.ofCache (h : s.Sound) {c : Cache}
    (hc : ∀ key entry, c.entries.get? key = some entry → s.cache.entries.get? key = some entry) :
    Sound { s with cache := c } where
  mark key n fingerprint hm := h.mark key n fingerprint (hc _ _ hm)
  ready key made hr := h.ready key made (hc _ _ hr)
  ticket := h.ticket

theorem getElem?_append_singleton {α : Type} {xs : List α} {i : Nat} {x y : α}
    (h : (xs ++ [x])[i]? = some y) : xs[i]? = some y ∨ i = xs.length ∧ y = x := by
  by_cases hlt : i < xs.length
  · rw [List.getElem?_append_left hlt] at h
    exact .inl h
  · have hge := Nat.le_of_not_lt hlt
    rw [List.getElem?_append_right hge] at h
    obtain ⟨hzero, hx⟩ := List.getElem?_eq_some_iff.1 h
    rw [List.length_singleton] at hzero
    refine .inr ⟨by omega, ?_⟩
    rw [← hx, List.getElem_singleton]

/-- **A step keeps the state sound.** -/
theorem Step.sound (step : Step s e s') (h : s.Sound) : s'.Sound := by
  cases step with
  | answered => exact h
  | @joined key fingerprint n f look flight under =>
    refine h.ofWaiting fun t tk ht => ?_
    rcases getElem?_append_singleton ht with hold | ⟨-, rfl⟩
    · exact .inl hold
    · exact .inr ⟨⟨f, flight⟩, by simp⟩
  | @joinedLate key fingerprint n f ending look flight ended =>
    refine h.ofSight flight ended fun t tk ht => ?_
    rcases getElem?_append_singleton ht with hold | ⟨-, rfl⟩
    · exact .inl hold
    · exact .inr ⟨rfl, rfl⟩
  | @started key fingerprint look =>
    refine (h.launch key fingerprint).ofWaiting fun t tk ht => ?_
    rcases getElem?_append_singleton ht with hold | ⟨-, rfl⟩
    · exact .inl hold
    · exact .inr ⟨⟨⟨key, fingerprint, none⟩, by simp⟩, by simp⟩
  | finished flight under => exact h.finish flight under _
  | unfinished => exact h
  | @resumed t tk f ending ticket waits flight ended =>
    refine h.ofSight flight ended fun i tk' hi => ?_
    rw [show s.tickets.modify t _ = (s.setTicket t _).tickets from rfl,
      getElem?_setTicket ticket] at hi
    split at hi
    · cases hi
      exact .inr ⟨rfl, rfl⟩
    · exact .inl hi
  | unresumed => exact h
  | @dropped t tk ticket waits =>
    refine h.ofWaiting fun i tk' hi => ?_
    rw [show s.tickets.modify t _ = (s.setTicket t _).tickets from rfl,
      getElem?_setTicket ticket] at hi
    split at hi
    · cases hi
      obtain ⟨f, hf, -⟩ := h.ticket t tk ticket
      exact .inr ⟨⟨f, hf⟩, by simp⟩
    · exact .inl hi
  | undropped => exact h
  | cleared => exact h.ofCache fun key entry hk => by rw [Cache.get?_clear] at hk; cases hk
  | invalidated =>
    refine h.ofCache fun key entry hk => ?_
    rw [Cache.get?_invalidate] at hk
    split at hk
    · cases hk
    · exact hk

/-! ## Runs -/

theorem run_append (s : Flights) (events later : List Event) :
    s.run (events ++ later) = (s.run events).run later :=
  List.foldl_append

theorem run_concat (s : Flights) (events : List Event) (e : Event) :
    s.run (events ++ [e]) = (s.run events).after e := by
  rw [run_append]
  rfl

/-- **Every run of a sound state is sound.** -/
theorem Sound.run (h : s.Sound) (events : List Event) : (s.run events).Sound := by
  induction events generalizing s with
  | nil => exact h
  | cons e rest ih => exact ih ((step_after h e).sound h)

/-- **The cache of every run is sound.** -/
theorem sound_run (events : List Event) : (run {} events).Sound :=
  Sound.empty.run events

/-- **A run takes nothing back.** -/
theorem Sound.grows (h : s.Sound) (events : List Event) : Grows s (s.run events) := by
  induction events generalizing s with
  | nil => exact .refl s
  | cons e rest ih =>
    have step := step_after h e
    exact step.grows.trans (ih (step.sound h))

end TypedImport.Flights
