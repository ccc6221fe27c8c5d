import Mathlib.Data.List.Induction
import TypedImport.Proofs.Cache.Soundness

/-!
# The history of a run

Some things are said of a run and not of the state it leads to: which request had a computation
started, which computations were fenced off by a clear, what a request was told. They are said here by
the number of an event in the run; `moment` is the state before event number `i`.

**The life of a mark.** The mark of a computation stands from its start until the computation is fenced
off or settled, and never again after that. `marks_run_iff` says so of every run, and it is what the
guarantees of the cache rest on.
-/

namespace TypedImport

/-- **Something has happened in a run**: of an event and those before it `P` is true. -/
def Happened {α : Type} (P : List α → α → Prop) (events : List α) : Prop :=
  ∃ before e later, events = before ++ e :: later ∧ P before e

theorem not_happened_nil {α : Type} {P : List α → α → Prop} : ¬ Happened P [] := by
  rintro ⟨before, e, later, heq, -⟩
  simp at heq

theorem happened_concat {α : Type} {P : List α → α → Prop} {events : List α} {e : α} :
    Happened P (events ++ [e]) ↔ Happened P events ∨ P events e := by
  constructor
  · rintro ⟨before, e', later, heq, hp⟩
    rcases List.eq_nil_or_concat later with rfl | ⟨later, x, rfl⟩
    · obtain ⟨rfl, he⟩ := List.append_inj' heq rfl
      cases he
      exact .inr hp
    · rw [List.concat_eq_append, ← List.cons_append, ← List.append_assoc] at heq
      obtain ⟨rfl, -⟩ := List.append_inj' heq rfl
      exact .inl ⟨before, e', later, rfl, hp⟩
  · rintro (⟨before, e', later, rfl, hp⟩ | hp)
    · exact ⟨before, e', later ++ [e], by simp, hp⟩
    · exact ⟨events, e, [], rfl, hp⟩

theorem Happened.append {α : Type} {P : List α → α → Prop} {events : List α} (h : Happened P events)
    (later : List α) : Happened P (events ++ later) := by
  obtain ⟨before, e, rest, rfl, hp⟩ := h
  exact ⟨before, e, rest ++ later, by simp, hp⟩

/-- The answer that a request has, if it has one. -/
def TicketState.answer? : TicketState → Option (Except ImportError Served)
  | .answered result => some result
  | _ => none

namespace Flights

variable {s s' : Flights} {key : CacheKey} {fingerprint : String} {n m t i j : Nat} {f : Flight}
  {tk : Ticket} {e : Event} {events : List Event}

/-! ## Moments -/

/-- The state before event number `i` of a run of an empty cache. -/
def moment (events : List Event) (i : Nat) : Flights :=
  run {} (events.take i)

theorem moment_sound (events : List Event) (i : Nat) : (moment events i).Sound :=
  sound_run _

theorem moment_succ (h : events[i]? = some e) :
    moment events (i + 1) = (moment events i).after e := by
  unfold moment
  rw [List.take_add_one, h, Option.toList_some, run_concat]

theorem step_moment (h : events[i]? = some e) :
    Step (moment events i) e (moment events (i + 1)) := by
  rw [moment_succ h]
  exact step_after (moment_sound events i) e

theorem grows_moment (events : List Event) (h : i ≤ j) :
    Grows (moment events i) (moment events j) := by
  obtain ⟨k, rfl⟩ := Nat.exists_eq_add_of_le h
  unfold moment
  rw [List.take_add, run_append]
  exact (sound_run _).grows _

theorem grows_of_moment (events : List Event) (i : Nat) :
    Grows (moment events i) (run {} events) := by
  have h : run {} events = (moment events i).run (events.drop i) := by
    unfold moment
    rw [← run_append, List.take_append_drop]
  rw [h]
  exact (moment_sound events i).grows _

/-! ## Computations and requests that are new -/

theorem Step.flight_new (h : Step s e s') (hn : s.flights[n]? = none) (hf : s'.flights[n]? = some f) :
    ∃ key fingerprint, e = .request key fingerprint ∧ n = s.flights.length ∧
      f = ⟨key, fingerprint, none⟩ ∧ s.cache.lookup key fingerprint = .start ∧
      s' = (s.launch key fingerprint).addTicket ⟨s.flights.length, .computed, .waiting⟩ := by
  cases h with
  | @started key fingerprint look =>
    refine ⟨key, fingerprint, rfl, ?_, ?_, look, rfl⟩
    all_goals
      rw [addTicket_flights, launch_flights, List.getElem?_append_right (by simpa using hn)] at hf
    · have := (List.getElem?_eq_some_iff.1 hf).1
      have := List.getElem?_eq_none_iff.1 hn
      simp only [List.length_singleton] at *
      omega
    · exact (List.mem_singleton.1 (List.mem_of_getElem? hf))
  | finished flight =>
    rw [getElem?_finished flight] at hf
    split at hf
    next hm =>
      rw [hm, flight] at hn
      cases hn
    next hm =>
      rw [hn] at hf
      cases hf
  | answered => rw [hn] at hf; cases hf
  | joined => rw [addTicket_flights, hn] at hf; cases hf
  | joinedLate => rw [afterSight_flights, addTicket_flights, hn] at hf; cases hf
  | unfinished => rw [hn] at hf; cases hf
  | resumed => rw [afterSight_flights, setTicket_flights, hn] at hf; cases hf
  | unresumed => rw [hn] at hf; cases hf
  | dropped => rw [setTicket_flights, hn] at hf; cases hf
  | undropped => rw [hn] at hf; cases hf
  | cleared => rw [show s.clear.flights = s.flights from rfl, hn] at hf; cases hf
  | @invalidated url => rw [show (s.invalidate url).flights = s.flights from rfl, hn] at hf; cases hf

theorem Step.ending_new (h : Step s e s') (hf : s.flights[n]? = some f) (hu : f.ending = none)
    {f' : Flight} {ending : Ending} (hf' : s'.flights[n]? = some f')
    (he : f'.ending = some ending) :
    e = .finish n ending ∧ s'.cache = cacheAfter s.cache f.key n ending := by
  have same : s'.flights[n]? = some f → False := by
    intro heq
    rw [hf'] at heq
    cases heq
    rw [hu] at he
    cases he
  cases h with
  | @finished m g ending' flight under =>
    rw [getElem?_finished flight] at hf'
    split at hf'
    next hm =>
      subst hm
      cases hf'
      rw [hf] at flight
      cases flight
      cases he
      exact ⟨rfl, rfl⟩
    next hm =>
      rw [hf] at hf'
      cases hf'
      rw [hu] at he
      cases he
  | started look =>
    refine (same ?_).elim
    rw [addTicket_flights, launch_flights,
      List.getElem?_append_left (List.getElem?_eq_some_iff.1 hf).1, hf]
  | joinedLate => exact (same (by rw [afterSight_flights, addTicket_flights, hf])).elim
  | resumed => exact (same (by rw [afterSight_flights, setTicket_flights, hf])).elim
  | answered => exact (same hf).elim
  | joined => exact (same hf).elim
  | unfinished => exact (same hf).elim
  | unresumed => exact (same hf).elim
  | dropped => exact (same hf).elim
  | undropped => exact (same hf).elim
  | cleared => exact (same hf).elim
  | invalidated => exact (same hf).elim

theorem Step.ticket_new (h : Step s (.request key fingerprint) s')
    (ht : s'.tickets[s.tickets.length]? = some tk) :
    tk.status = .joined ∧ s.cache.lookup key fingerprint = .join tk.flight ∧
        s'.flights = s.flights ∨
      tk.status = .computed ∧ s.cache.lookup key fingerprint = .start ∧
        tk.flight = s.flights.length ∧ s'.flights = s.flights ++ [⟨key, fingerprint, none⟩] := by
  cases h with
  | answered => simp at ht
  | joined look =>
    rw [addTicket_tickets, List.getElem?_concat_length] at ht
    cases ht
    exact .inl ⟨rfl, look, rfl⟩
  | joinedLate look =>
    rw [afterSight_tickets, addTicket_tickets, List.getElem?_concat_length] at ht
    cases ht
    exact .inl ⟨rfl, look, afterSight_flights⟩
  | started look =>
    rw [addTicket_tickets, launch_tickets, List.getElem?_concat_length] at ht
    cases ht
    exact .inr ⟨rfl, look, rfl, rfl⟩

/-! ## What requests do and are told -/

/-- **Event number `i` of a run has computation `n` put under way**: it is a request, and the
computation that it brings is the one computation more that there is afterwards. -/
def Starts (events : List Event) (i n : Nat) : Prop :=
  ∃ key fingerprint, events[i]? = some (.request key fingerprint) ∧
    (moment events i).flights.length = n ∧ (moment events (i + 1)).flights.length = n + 1

/-- **Event number `i` of a run is a request that attaches to computation `n`**, under ticket number
`t` and with a status. -/
structure Attaches (events : List Event) (i : Nat) (key : CacheKey) (fingerprint : String)
    (t n : Nat) (status : CacheStatus) : Prop where
  request : events[i]? = some (.request key fingerprint)
  number : (moment events i).tickets.length = t
  ticket : ∃ state, (moment events (i + 1)).tickets[t]? = some ⟨n, status, state⟩

/-- **What the request that is event number `i` has been told by the end of a run**, at once or when it
was resumed. -/
def told? (events : List Event) (i : Nat) : Option (Except ImportError Served) :=
  match events[i]? with
  | some (.request key fingerprint) =>
    match ((moment events i).request key fingerprint).1 with
    | .now result => some result
    | .later t _ => (run {} events).tickets[t]?.bind fun tk => tk.state.answer?
  | _ => none

theorem Attaches.cases {status : CacheStatus} (h : Attaches events i key fingerprint t n status) :
    status = .joined ∧ (moment events i).cache.lookup key fingerprint = .join n ∧
        (∀ m, ¬ Starts events i m) ∨
      status = .computed ∧ Starts events i n := by
  obtain ⟨hr, rfl, state, ht⟩ := h
  rcases (step_moment hr).ticket_new ht with ⟨hs, hl, hf⟩ | ⟨hs, -, hn, hf⟩
  · refine .inl ⟨hs, hl, ?_⟩
    rintro m ⟨key', fingerprint', -, hm, hm'⟩
    rw [hf] at hm'
    omega
  · refine .inr ⟨hs, key, fingerprint, hr, hn.symm, ?_⟩
    rw [hf, List.length_append, List.length_singleton, ← hn]

theorem Starts.unique (h : Starts events i n) (h' : Starts events j n) : i = j := by
  obtain ⟨-, -, -, hi, hi'⟩ := h
  obtain ⟨-, -, -, hj, hj'⟩ := h'
  rcases Nat.lt_trichotomy i j with hlt | heq | hlt
  · have := (grows_moment events (show i + 1 ≤ j from hlt)).length_le
    omega
  · exact heq
  · have := (grows_moment events (show j + 1 ≤ i from hlt)).length_le
    omega

/-- Every computation that there is at a moment was started by an event before. -/
theorem starts_of_lt_length (k : Nat) (hk : k ≤ events.length)
    (hn : n < (moment events k).flights.length) : ∃ i, i < k ∧ Starts events i n := by
  induction k with
  | zero => simp [moment, run] at hn
  | succ k ih =>
    by_cases hold : n < (moment events k).flights.length
    · obtain ⟨i, hi, hs⟩ := ih (by omega) hold
      exact ⟨i, by omega, hs⟩
    · have he : events[k]? = some events[k] := List.getElem?_eq_getElem (by omega)
      obtain ⟨key, fingerprint, hreq, hlen, -, -, hs⟩ :=
        (step_moment he).flight_new (List.getElem?_eq_none (by omega)) (List.getElem?_eq_getElem hn)
      refine ⟨k, by omega, key, fingerprint, he.trans (congrArg some hreq), hlen.symm, ?_⟩
      rw [hs, addTicket_flights, launch_flights, List.length_append, List.length_singleton, hlen]

theorem Starts.attaches (h : Starts events i n) (hf : (run {} events).flights[n]? = some f) :
    ∃ t, Attaches events i f.key f.fingerprint t n .computed := by
  obtain ⟨key, fingerprint, hr, hn, hn'⟩ := h
  have hnew : (moment events (i + 1)).flights[n]? = some _ :=
    List.getElem?_eq_getElem (by omega)
  obtain ⟨key', fingerprint', hreq, -, hflight, -, hs⟩ :=
    (step_moment hr).flight_new (List.getElem?_eq_none (by omega)) hnew
  cases hreq
  obtain ⟨f', hf', hkey, hfp, -⟩ := (grows_of_moment events (i + 1)).flight n _ hnew
  rw [hf] at hf'
  cases hf'
  rw [hflight] at hkey hfp
  subst hkey hfp
  refine ⟨_, hr, rfl, .waiting, ?_⟩
  rw [hs, addTicket_tickets, launch_tickets, List.getElem?_concat_length, hn]

/-- A request that attached still is attached at the end, and has been told what its ticket says. -/
theorem Attaches.told?_eq {status : CacheStatus} (h : Attaches events i key fingerprint t n status) :
    ∃ tk : Ticket, (run {} events).tickets[t]? = some tk ∧ tk.flight = n ∧ tk.status = status ∧
      told? events i = tk.state.answer? := by
  obtain ⟨hr, rfl, state, ht⟩ := h
  obtain ⟨tk, htk, hn, hs, hkept⟩ := (grows_of_moment events (i + 1)).ticket _ _ ht
  refine ⟨tk, htk, hn, hs, ?_⟩
  unfold told?
  rw [hr]
  have hsucc := moment_succ hr
  rw [show (moment events i).after (.request key fingerprint) =
    ((moment events i).request key fingerprint).2 from rfl] at hsucc
  rw [hsucc] at ht
  cases hl : (moment events i).cache.lookup key fingerprint with
  | hit made => simp [request_of_hit hl] at ht
  | conflict expected => simp [request_of_conflict hl] at ht
  | join m =>
    obtain ⟨f, hf, -⟩ := (moment_sound events i).mark key m fingerprint (Cache.lookup_eq_join_iff.1 hl)
    cases he : f.ending with
    | none => simp [request_of_join hl hf he, htk]
    | some ending =>
      simp only [request_of_late_join hl hf he] at ht ⊢
      rw [afterSight_tickets, addTicket_tickets, List.getElem?_concat_length] at ht
      cases ht
      rw [hkept (by simp)]
      rfl
  | start => simp [request_of_start hl, htk]

/-! ## Fences -/

/-- **An event takes away what is kept for a key**: a clear does, and an invalidation of its asset. -/
def Event.Covers : Event → CacheKey → Prop
  | .clear, _ => True
  | .invalidate url, key => key.url = url
  | _, _ => False

/-- **A computation of a run is fenced off**: the cache was cleared, or its asset was invalidated, at
some time after it was started. -/
def Fenced (events : List Event) (n : Nat) : Prop :=
  Happened (fun before e => ∃ f, (run {} before).flights[n]? = some f ∧ e.Covers f.key) events

/-! ## The life of a mark -/

/-- **A computation is settled**: it has ended with a record or an error, or its break was seen. -/
def Settled (s : Flights) (n : Nat) : Prop :=
  (∃ (f : Flight) (ending : Ending), s.flights[n]? = some f ∧ f.ending = some ending ∧
    ∀ message, ending ≠ .panicked message) ∨
  ∃ (t : Nat) (tk : Ticket) (result : Except ImportError Served),
    s.tickets[t]? = some tk ∧ tk.flight = n ∧ tk.state = .answered result

theorem Settled.grows (h : s.Settled n) (hg : Grows s s') : s'.Settled n := by
  rcases h with ⟨f, ending, hf, he, hb⟩ | ⟨t, tk, result, ht, hn, ha⟩
  · obtain ⟨f', hf', -, -, hend⟩ := hg.flight n f hf
    exact .inl ⟨f', ending, hf', hend ending he, hb⟩
  · obtain ⟨tk', ht', hn', -, hs⟩ := hg.ticket t tk ht
    exact .inr ⟨t, tk', result, ht', hn'.trans hn, by rw [hs (by simp [ha]), ha]⟩

theorem Sound.not_settled_of_marks (h : s.Sound) (hm : s.cache.Marks key n) : ¬ s.Settled n := by
  obtain ⟨fingerprint, hm⟩ := hm
  obtain ⟨f, hf, -, -, hend⟩ := h.mark key n fingerprint hm
  rintro (⟨f', ending, hf', he, hb⟩ | ⟨t, tk, result, ht, hn, ha⟩)
  · rw [hf] at hf'
    cases hf'
    rcases hend with hnone | ⟨⟨message, hp⟩, -⟩
    · rw [he] at hnone
      cases hnone
    · rw [he] at hp
      cases hp
      exact hb message rfl
  · rcases hend with hnone | ⟨-, hunseen⟩
    · obtain ⟨f', hf', hans⟩ := h.ticket t tk ht
      obtain ⟨ending, he, -⟩ := hans result ha
      rw [hn, hf] at hf'
      cases hf'
      rw [he] at hnone
      cases hnone
    · exact hunseen t tk result ht hn ha

theorem Sound.not_settled_of_under (h : s.Sound) (hf : s.flights[n]? = some f)
    (hu : f.ending = none) : ¬ s.Settled n := by
  rintro (⟨f', ending, hf', he, -⟩ | ⟨t, tk, result, ht, hn, ha⟩)
  · rw [hf] at hf'
    cases hf'
    rw [hu] at he
    cases he
  · obtain ⟨f', hf', hans⟩ := h.ticket t tk ht
    obtain ⟨ending, he, -⟩ := hans result ha
    rw [hn, hf] at hf'
    cases hf'
    rw [hu] at he
    cases he

theorem Step.marks_before (h : Step s e s') (hf : s.flights[n]? = some f)
    (hm : s'.cache.Marks key n) : s.cache.Marks key n ∧ ¬ e.Covers key := by
  obtain ⟨fp, hm⟩ := hm
  cases h with
  | answered => exact ⟨⟨fp, hm⟩, id⟩
  | joined => exact ⟨⟨fp, hm⟩, id⟩
  | joinedLate => exact ⟨⟨fp, ((get?_afterSight_inFlight ..).1 hm).1⟩, id⟩
  | started =>
    rw [addTicket_cache, launch_cache, Cache.get?_start] at hm
    split at hm
    · cases hm
      have := (List.getElem?_eq_some_iff.1 hf).1
      omega
    · exact ⟨⟨fp, hm⟩, id⟩
  | finished => exact ⟨⟨fp, ((get?_cacheAfter_inFlight ..).1 hm).1⟩, id⟩
  | unfinished => exact ⟨⟨fp, hm⟩, id⟩
  | resumed => exact ⟨⟨fp, ((get?_afterSight_inFlight ..).1 hm).1⟩, id⟩
  | unresumed => exact ⟨⟨fp, hm⟩, id⟩
  | dropped => exact ⟨⟨fp, hm⟩, id⟩
  | undropped => exact ⟨⟨fp, hm⟩, id⟩
  | cleared =>
    rw [show s.clear.cache = s.cache.clear from rfl, Cache.get?_clear] at hm
    cases hm
  | @invalidated url =>
    rw [show (s.invalidate url).cache = s.cache.invalidate url from rfl,
      Cache.get?_invalidate] at hm
    split at hm
    next hu => cases hm
    next hu => exact ⟨⟨fp, hm⟩, hu⟩

/-- **A mark stands on**, unless a fence takes it away or its computation is settled. -/
theorem Step.marks_after (h : Step s e s') (hm : s.cache.Marks key n) (hc : ¬ e.Covers key) :
    s'.cache.Marks key n ∨ s'.Settled n := by
  obtain ⟨fp, hm⟩ := hm
  cases h with
  | answered => exact .inl ⟨fp, hm⟩
  | joined => exact .inl ⟨fp, hm⟩
  | @joinedLate key fingerprint m g ending look flight ended =>
    by_cases hn : n = m
    · have ht : ((s.addTicket ⟨m, .joined, .answered (resultOf m g.key .joined ending)⟩).afterSight
          m g.key ending).tickets[s.tickets.length]? =
          some ⟨m, .joined, .answered (resultOf m g.key .joined ending)⟩ := by
        rw [afterSight_tickets, addTicket_tickets, List.getElem?_concat_length]
      exact .inr (.inr ⟨_, _, _, ht, hn.symm, rfl⟩)
    · exact .inl ⟨fp, (get?_afterSight_inFlight ..).2 ⟨hm, fun h => hn h.2.2⟩⟩
  | @started key fingerprint look =>
    refine .inl ⟨fp, ?_⟩
    rw [addTicket_cache, launch_cache, Cache.get?_start, if_neg, hm]
    rintro rfl
    rcases Cache.lookup_eq_start_iff.1 look with hnone | ⟨made, hready, -⟩
    · rw [hm] at hnone
      cases hnone
    · rw [hm] at hready
      cases hready
  | @finished m g ending flight under =>
    by_cases hb : ∃ message, ending = .panicked message
    · exact .inl ⟨fp, (get?_cacheAfter_inFlight ..).2 ⟨hm, .inl hb⟩⟩
    · by_cases hn : n = m
      · refine .inr (.inl ⟨{ g with ending := some ending }, ending, ?_, rfl, ?_⟩)
        · rw [getElem?_finished flight, if_pos hn]
        · exact fun message he => hb ⟨message, he⟩
      · exact .inl ⟨fp, (get?_cacheAfter_inFlight ..).2 ⟨hm, .inr fun h => hn h.2⟩⟩
  | unfinished => exact .inl ⟨fp, hm⟩
  | @resumed t tk g ending ticket waits flight ended =>
    by_cases hn : n = tk.flight
    · have ht : ((s.setTicket t (.answered (resultOf tk.flight g.key tk.status ending))).afterSight
          tk.flight g.key ending).tickets[t]? =
          some { tk with state := .answered (resultOf tk.flight g.key tk.status ending) } := by
        rw [afterSight_tickets, getElem?_setTicket ticket, if_pos rfl]
      exact .inr (.inr ⟨_, _, _, ht, hn.symm, rfl⟩)
    · exact .inl ⟨fp, (get?_afterSight_inFlight ..).2 ⟨hm, fun h => hn h.2.2⟩⟩
  | unresumed => exact .inl ⟨fp, hm⟩
  | dropped => exact .inl ⟨fp, hm⟩
  | undropped => exact .inl ⟨fp, hm⟩
  | cleared => exact absurd trivial hc
  | @invalidated url =>
    refine .inl ⟨fp, ?_⟩
    rw [show (s.invalidate url).cache = s.cache.invalidate url from rfl, Cache.get?_invalidate,
      if_neg (show ¬ key.url = url from hc), hm]

/-- **The mark of a computation stands exactly as long as it is neither fenced off nor settled.** -/
theorem marks_run_iff (hf : (run {} events).flights[n]? = some f) :
    (run {} events).cache.Marks f.key n ↔
      ¬ Fenced events n ∧ ¬ (run {} events).Settled n := by
  induction events using List.reverseRecOn generalizing f with
  | nil => simp [run] at hf
  | append_singleton events e ih =>
    have sound := sound_run events
    have step := step_after sound e
    have sound' := step.sound sound
    rw [Fenced, happened_concat]
    rw [run_concat] at hf ⊢
    cases hold : (run {} events).flights[n]? with
    | none =>
      -- the computation is started just now
      obtain ⟨key, fingerprint, -, hn, rfl, -, hs⟩ := step.flight_new hold hf
      have hmark : ((run {} events).after e).cache.Marks key n := by
        refine ⟨fingerprint, ?_⟩
        rw [hs, addTicket_cache, launch_cache, Cache.get?_start, if_pos rfl, hn]
      refine ⟨fun _ => ⟨?_, sound'.not_settled_of_marks hmark⟩, fun _ => hmark⟩
      rintro (⟨before, e', later, rfl, f', hf', -⟩ | ⟨f', hf', -⟩)
      · obtain ⟨f'', hf'', -⟩ := ((sound_run before).grows (e' :: later)).flight n f' hf'
        rw [← run_append, hold] at hf''
        cases hf''
      · cases hf'
    | some old =>
      obtain ⟨f', hf', hkey, -⟩ := step.grows.flight n old hold
      rw [hf] at hf'
      cases hf'
      have hih := ih hold
      rw [hkey]
      constructor
      · intro hm
        obtain ⟨hmo, hc⟩ := step.marks_before hold hm
        refine ⟨?_, sound'.not_settled_of_marks hm⟩
        rintro (hfen | ⟨f', hf', hc'⟩)
        · exact (hih.1 hmo).1 hfen
        · cases hf'
          exact hc hc'
      · rintro ⟨hfen, hset⟩
        have hmo := hih.2 ⟨fun h => hfen (.inl h), fun h => hset (h.grows step.grows)⟩
        have hc : ¬ e.Covers old.key := fun hc => hfen (.inr ⟨old, rfl, hc⟩)
        exact (step.marks_after hmo hc).resolve_right hset

end Flights

end TypedImport
