import TypedImport.Cache.Flights
import TypedImport.Proofs.Cache.Entries

/-!
# What an event does to a cache

A request, an ending, a request that is resumed: each event of a run changes the state in one of a few
ways. `Step` lists them, and `step_after` says that the list is complete; what a run keeps is proved
from `Step` and never from the functions themselves.

**Soundness.** `Sound` is the invariant that ties the cache to its computations and requests: a mark is
of a computation that is under way, or that broke off and has been seen by nobody; a ready record is
the ending of the computation that made it; an answer is what the computation ended with.
-/

namespace TypedImport.Flights

variable {s s' : Flights} {key : CacheKey} {fingerprint : String} {n t : Nat} {f : Flight}
  {tk : Ticket} {ending : Ending}

/-! ## What a request sees -/

/-- The state with a request more that waits or has waited. -/
def addTicket (s : Flights) (tk : Ticket) : Flights :=
  { s with tickets := s.tickets ++ [tk] }

@[simp] theorem addTicket_cache : (s.addTicket tk).cache = s.cache := rfl

@[simp] theorem addTicket_flights : (s.addTicket tk).flights = s.flights := rfl

@[simp] theorem addTicket_tickets : (s.addTicket tk).tickets = s.tickets ++ [tk] := rfl

@[simp] theorem setTicket_cache (state : TicketState) : (s.setTicket t state).cache = s.cache := rfl

@[simp] theorem setTicket_flights (state : TicketState) :
    (s.setTicket t state).flights = s.flights := rfl

@[simp] theorem afterSight_flights : (s.afterSight n key ending).flights = s.flights := by
  cases ending <;> rfl

@[simp] theorem afterSight_tickets : (s.afterSight n key ending).tickets = s.tickets := by
  cases ending <;> rfl

@[simp] theorem resume_flights (t : Nat) : (s.resume t).2.flights = s.flights := by
  unfold resume
  split
  · rfl
  · exact afterSight_flights

@[simp] theorem launch_cache :
    (s.launch key fingerprint).cache = s.cache.start key s.flights.length fingerprint := rfl

@[simp] theorem launch_flights :
    (s.launch key fingerprint).flights = s.flights ++ [⟨key, fingerprint, none⟩] := rfl

@[simp] theorem launch_tickets : (s.launch key fingerprint).tickets = s.tickets := rfl

theorem sight?_eq_some_iff :
    s.sight? t = some (tk, f, ending) ↔
      s.tickets[t]? = some tk ∧ tk.state = .waiting ∧ s.flights[tk.flight]? = some f ∧
        f.ending = some ending := by
  unfold sight?
  cases ht : s.tickets[t]? with
  | none => simp
  | some tk' =>
    cases hs : tk'.state with
    | waiting =>
      cases hf : s.flights[tk'.flight]? with
      | none =>
        simp only [Option.bind_eq_bind, Option.bind_some, hs, hf, Option.bind_none, reduceCtorEq,
          Option.some.injEq, false_iff]
        rintro ⟨rfl, -, hf', -⟩
        simp [hf] at hf'
      | some f' =>
        cases he : f'.ending with
        | none =>
          simp only [Option.bind_eq_bind, Option.bind_some, hs, hf, he, Option.bind_none,
            reduceCtorEq, Option.some.injEq, false_iff]
          rintro ⟨rfl, -, hf', he'⟩
          rw [hf] at hf'
          cases hf'
          simp [he] at he'
        | some ending' =>
          simp only [Option.bind_eq_bind, Option.bind_some, hs, hf, he, Option.pure_def,
            Option.some.injEq, Prod.mk.injEq]
          constructor
          · rintro ⟨rfl, rfl, rfl⟩
            exact ⟨rfl, hs, hf, he⟩
          · rintro ⟨rfl, -, hf', he'⟩
            rw [hf] at hf'
            cases hf'
            rw [he] at he'
            cases he'
            exact ⟨rfl, rfl, rfl⟩
    | dropped =>
      simp only [Option.bind_eq_bind, Option.bind_some, hs, reduceCtorEq, Option.some.injEq,
        false_iff, not_and]
      rintro rfl hw
      simp [hs] at hw
    | answered r =>
      simp only [Option.bind_eq_bind, Option.bind_some, hs, reduceCtorEq, Option.some.injEq,
        false_iff, not_and]
      rintro rfl hw
      simp [hs] at hw

theorem resume_of_ended (ht : s.tickets[t]? = some tk) (hw : tk.state = .waiting)
    (hf : s.flights[tk.flight]? = some f) (he : f.ending = some ending) :
    s.resume t =
      (some (resultOf tk.flight f.key tk.status ending),
        (s.setTicket t (.answered (resultOf tk.flight f.key tk.status ending))).afterSight
          tk.flight f.key ending) := by
  unfold resume
  rw [sight?_eq_some_iff.2 ⟨ht, hw, hf, he⟩]

theorem setTicket_addTicket (state : TicketState) :
    (s.addTicket tk).setTicket s.tickets.length state =
      s.addTicket { tk with state := state } := by
  unfold addTicket setTicket
  congr 1
  apply List.ext_getElem?
  intro i
  rw [List.getElem?_modify, List.getElem?_append, List.getElem?_append]
  rcases Nat.lt_trichotomy i s.tickets.length with hi | rfl | hi
  · simp [hi, Nat.ne_of_gt hi]
  · simp
  · have hne : s.tickets.length ≠ i := Nat.ne_of_lt hi
    have hout : i - s.tickets.length ≠ 0 := by omega
    simp [hne, Nat.not_lt_of_gt hi, hout]

theorem await_eq (status : CacheStatus) :
    s.await n status =
      match (s.addTicket ⟨n, status, .waiting⟩).resume s.tickets.length with
      | (some result, s') => (.now result, s')
      | (none, s') => (.later s.tickets.length status, s') := rfl

theorem await_of_under (hf : s.flights[n]? = some f) (he : f.ending = none) (status : CacheStatus) :
    s.await n status = (.later s.tickets.length status, s.addTicket ⟨n, status, .waiting⟩) := by
  have hnone : (s.addTicket ⟨n, status, .waiting⟩).sight? s.tickets.length = none := by
    cases h : (s.addTicket ⟨n, status, .waiting⟩).sight? s.tickets.length with
    | none => rfl
    | some seen =>
      obtain ⟨tk, f', ending⟩ := seen
      obtain ⟨ht, -, hf', he'⟩ := sight?_eq_some_iff.1 h
      simp only [addTicket, List.getElem?_concat_length, Option.some.injEq] at ht
      subst ht
      simp only [addTicket, hf, Option.some.injEq] at hf'
      subst hf'
      simp [he] at he'
  have hr : (s.addTicket ⟨n, status, .waiting⟩).resume s.tickets.length =
      (none, s.addTicket ⟨n, status, .waiting⟩) := by
    unfold resume
    rw [hnone]
  rw [await_eq, hr]

theorem await_of_ended (hf : s.flights[n]? = some f) (he : f.ending = some ending)
    (status : CacheStatus) :
    s.await n status =
      (.now (resultOf n f.key status ending),
        (s.addTicket ⟨n, status, .answered (resultOf n f.key status ending)⟩).afterSight
          n f.key ending) := by
  have ht : (s.addTicket ⟨n, status, .waiting⟩).tickets[s.tickets.length]? =
      some ⟨n, status, .waiting⟩ := by
    simp [addTicket]
  have hr := resume_of_ended (s := s.addTicket ⟨n, status, .waiting⟩) ht rfl hf he
  rw [await_eq, hr, setTicket_addTicket]

/-! ## The answer to a request -/

theorem request_of_hit {made : Made} (h : s.cache.lookup key fingerprint = .hit made) :
    s.request key fingerprint = (.now (.ok ⟨made, .hit⟩), s) := by
  unfold request
  rw [h]

theorem request_of_conflict {expected : String}
    (h : s.cache.lookup key fingerprint = .conflict expected) :
    s.request key fingerprint =
      (.now (.error (.cacheConsistency key.url key.type key.handler expected fingerprint)), s) := by
  unfold request
  rw [h]

theorem request_of_join (h : s.cache.lookup key fingerprint = .join n)
    (hf : s.flights[n]? = some f) (he : f.ending = none) :
    s.request key fingerprint =
      (.later s.tickets.length .joined, s.addTicket ⟨n, .joined, .waiting⟩) := by
  unfold request
  rw [h]
  exact await_of_under hf he _

theorem request_of_late_join (h : s.cache.lookup key fingerprint = .join n)
    (hf : s.flights[n]? = some f) (he : f.ending = some ending) :
    s.request key fingerprint =
      (.now (resultOf n f.key .joined ending),
        (s.addTicket ⟨n, .joined, .answered (resultOf n f.key .joined ending)⟩).afterSight
          n f.key ending) := by
  unfold request
  rw [h]
  exact await_of_ended hf he _

theorem request_of_start (h : s.cache.lookup key fingerprint = .start) :
    s.request key fingerprint =
      (.later s.tickets.length .computed,
        (s.launch key fingerprint).addTicket ⟨s.flights.length, .computed, .waiting⟩) := by
  unfold request
  rw [h]
  refine await_of_under (f := ⟨key, fingerprint, none⟩) ?_ rfl _
  simp [launch]

/-! ## Soundness -/

/-- No request has been answered by a computation. -/
def Unseen (s : Flights) (n : Nat) : Prop :=
  ∀ (t : Nat) (tk : Ticket) (result : Except ImportError Served),
    s.tickets[t]? = some tk → tk.flight = n → tk.state ≠ .answered result

/-- **What holds between a cache, its computations and its requests** at any time. -/
structure Sound (s : Flights) : Prop where
  /-- A mark is of a computation of its key and content, which is under way or broke off unseen. -/
  mark : ∀ key n fingerprint, s.cache.entries.get? key = some (.inFlight n fingerprint) →
    ∃ f, s.flights[n]? = some f ∧ f.key = key ∧ f.fingerprint = fingerprint ∧
      (f.ending = none ∨ (∃ message, f.ending = some (.panicked message)) ∧ s.Unseen n)
  /-- A ready record is what the computation that made it ended with. -/
  ready : ∀ key made, s.cache.entries.get? key = some (.ready made) →
    ∃ f, s.flights[made.computation]? = some f ∧ f.key = key ∧
      f.ending = some (.record made.record)
  /-- A request has a computation, and its answer is what that ended with. -/
  ticket : ∀ (t : Nat) (tk : Ticket), s.tickets[t]? = some tk →
    ∃ f : Flight, s.flights[tk.flight]? = some f ∧
      ∀ result, tk.state = .answered result →
        ∃ ending, f.ending = some ending ∧ result = resultOf tk.flight f.key tk.status ending

theorem Sound.empty : Sound {} where
  mark := by simp
  ready := by simp
  ticket := by simp

/-! ## The answer in a sound state -/

/-- **How a request is answered**, and the state that it leaves. -/
inductive Answer (s : Flights) (key : CacheKey) (fingerprint : String) : Reply → Flights → Prop where
  | hit {made : Made} (entry : s.cache.entries.get? key = some (.ready made))
      (same : made.record.fingerprint = fingerprint) :
      Answer s key fingerprint (.now (.ok ⟨made, .hit⟩)) s
  /-- It is told an error at once. -/
  | refused {error : ImportError} {s' : Flights} (flights : s'.flights = s.flights) :
      Answer s key fingerprint (.now (.error error)) s'
  | joined {n : Nat} (entry : s.cache.entries.get? key = some (.inFlight n fingerprint)) :
      Answer s key fingerprint (.later s.tickets.length .joined) (s.addTicket ⟨n, .joined, .waiting⟩)
  | started :
      Answer s key fingerprint (.later s.tickets.length .computed)
        ((s.launch key fingerprint).addTicket ⟨s.flights.length, .computed, .waiting⟩)

theorem Sound.answer_request (h : s.Sound) (key : CacheKey) (fingerprint : String) :
    Answer s key fingerprint (s.request key fingerprint).1 (s.request key fingerprint).2 := by
  cases hl : s.cache.lookup key fingerprint with
  | hit made =>
    obtain ⟨hk, hfp⟩ := Cache.lookup_eq_hit_iff.1 hl
    rw [request_of_hit hl]
    exact .hit hk hfp
  | conflict expected =>
    rw [request_of_conflict hl]
    exact .refused rfl
  | join n =>
    have hk := Cache.lookup_eq_join_iff.1 hl
    obtain ⟨f, hf, -, -, hend⟩ := h.mark key n fingerprint hk
    rcases hend with hu | ⟨⟨message, hb⟩, -⟩
    · rw [request_of_join hl hf hu]
      exact .joined hk
    · rw [request_of_late_join hl hf hb]
      exact .refused afterSight_flights
  | start =>
    rw [request_of_start hl]
    exact .started

/-! ## Steps -/

/-- **What an event does to the state**, in each of the cases that there are. -/
inductive Step (s : Flights) : Event → Flights → Prop where
  /-- A request is answered by the cache itself. -/
  | answered {key : CacheKey} {fingerprint : String}
      (look : (∃ made, s.cache.lookup key fingerprint = .hit made) ∨
        ∃ expected, s.cache.lookup key fingerprint = .conflict expected) :
      Step s (.request key fingerprint) s
  | joined {key : CacheKey} {fingerprint : String} {n : Nat} {f : Flight}
      (look : s.cache.lookup key fingerprint = .join n) (flight : s.flights[n]? = some f)
      (under : f.ending = none) :
      Step s (.request key fingerprint) (s.addTicket ⟨n, .joined, .waiting⟩)
  /-- A request joins a computation that has broken off, and is answered at once. -/
  | joinedLate {key : CacheKey} {fingerprint : String} {n : Nat} {f : Flight} {ending : Ending}
      (look : s.cache.lookup key fingerprint = .join n) (flight : s.flights[n]? = some f)
      (ended : f.ending = some ending) :
      Step s (.request key fingerprint)
        ((s.addTicket ⟨n, .joined, .answered (resultOf n f.key .joined ending)⟩).afterSight
          n f.key ending)
  | started {key : CacheKey} {fingerprint : String}
      (look : s.cache.lookup key fingerprint = .start) :
      Step s (.request key fingerprint)
        ((s.launch key fingerprint).addTicket ⟨s.flights.length, .computed, .waiting⟩)
  | finished {n : Nat} {f : Flight} {ending : Ending} (flight : s.flights[n]? = some f)
      (under : f.ending = none) :
      Step s (.finish n ending)
        { s with
          cache := cacheAfter s.cache f.key n ending
          flights := s.flights.modify n fun f => { f with ending := some ending } }
  /-- What is to end is not there, or has ended. -/
  | unfinished {n : Nat} {ending : Ending} : Step s (.finish n ending) s
  | resumed {t : Nat} {tk : Ticket} {f : Flight} {ending : Ending}
      (ticket : s.tickets[t]? = some tk) (waits : tk.state = .waiting)
      (flight : s.flights[tk.flight]? = some f) (ended : f.ending = some ending) :
      Step s (.resume t)
        ((s.setTicket t (.answered (resultOf tk.flight f.key tk.status ending))).afterSight
          tk.flight f.key ending)
  /-- There is nothing to see for the request. -/
  | unresumed {t : Nat} : Step s (.resume t) s
  | dropped {t : Nat} {tk : Ticket} (ticket : s.tickets[t]? = some tk)
      (waits : tk.state = .waiting) : Step s (.drop t) (s.setTicket t .dropped)
  /-- The request does not wait. -/
  | undropped {t : Nat} : Step s (.drop t) s
  | cleared : Step s .clear s.clear
  | invalidated {url : String} : Step s (.invalidate url) (s.invalidate url)

theorem step_request (h : s.Sound) (key : CacheKey) (fingerprint : String) :
    Step s (.request key fingerprint) (s.request key fingerprint).2 := by
  cases hl : s.cache.lookup key fingerprint with
  | hit made =>
    rw [request_of_hit hl]
    exact .answered (.inl ⟨made, hl⟩)
  | conflict expected =>
    rw [request_of_conflict hl]
    exact .answered (.inr ⟨expected, hl⟩)
  | join n =>
    obtain ⟨f, hf, -⟩ := h.mark key n fingerprint (Cache.lookup_eq_join_iff.1 hl)
    cases he : f.ending with
    | none =>
      rw [request_of_join hl hf he]
      exact .joined hl hf he
    | some ending =>
      rw [request_of_late_join hl hf he]
      exact .joinedLate hl hf he
  | start =>
    rw [request_of_start hl]
    exact .started hl

theorem step_finish (n : Nat) (ending : Ending) :
    Step s (.finish n ending) (s.finish n ending) := by
  unfold finish
  cases hf : s.flights[n]? with
  | none => exact .unfinished
  | some f =>
    cases he : f.ending with
    | none =>
      simp only [he, Option.isSome_none, Bool.false_eq_true, if_false]
      exact .finished hf he
    | some old =>
      simp only [he, Option.isSome_some, if_true]
      exact .unfinished

theorem step_resume (t : Nat) : Step s (.resume t) (s.resume t).2 := by
  cases hs : s.sight? t with
  | none =>
    unfold resume
    rw [hs]
    exact .unresumed
  | some seen =>
    obtain ⟨tk, f, ending⟩ := seen
    obtain ⟨ht, hw, hf, he⟩ := sight?_eq_some_iff.1 hs
    rw [resume_of_ended ht hw hf he]
    exact .resumed ht hw hf he

theorem drop_of_waiting (ht : s.tickets[t]? = some tk) (hw : tk.state = .waiting) :
    s.drop t = s.setTicket t .dropped := by
  unfold drop setTicket
  congr 1
  apply List.ext_getElem?
  intro i
  rw [List.getElem?_modify, List.getElem?_modify]
  by_cases hi : t = i
  · subst hi
    simp [ht, hw]
  · simp [hi]

theorem drop_of_not_waiting
    (h : ∀ tk : Ticket, s.tickets[t]? = some tk → tk.state ≠ .waiting) :
    s.drop t = s := by
  unfold drop
  show _ = ({ s with tickets := s.tickets } : Flights)
  congr 1
  apply List.ext_getElem?
  intro i
  rw [List.getElem?_modify]
  by_cases hi : t = i
  · subst hi
    cases ht : s.tickets[t]? with
    | none => simp
    | some tk =>
      have hne := h tk ht
      cases hs : tk.state with
      | waiting => exact absurd hs hne
      | dropped => simp [hs]
      | answered r => simp [hs]
  · simp [hi]

theorem step_drop (t : Nat) : Step s (.drop t) (s.drop t) := by
  by_cases h : ∃ tk, s.tickets[t]? = some tk ∧ tk.state = .waiting
  · obtain ⟨tk, ht, hw⟩ := h
    rw [drop_of_waiting ht hw]
    exact .dropped ht hw
  · rw [drop_of_not_waiting fun tk ht hw => h ⟨tk, ht, hw⟩]
    exact .undropped

/-- **Every event is a step.** -/
theorem step_after (h : s.Sound) (e : Event) : Step s e (s.after e) := by
  cases e with
  | request key fingerprint => exact step_request h key fingerprint
  | finish n ending => exact step_finish n ending
  | resume t => exact step_resume t
  | drop t => exact step_drop t
  | clear => exact .cleared
  | invalidate url => exact .invalidated

end TypedImport.Flights
