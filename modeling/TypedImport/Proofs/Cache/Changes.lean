import TypedImport.Proofs.Cache.History

/-!
# What an event does to the entries of a cache

Most events leave the entries of a cache alone. The others mark a computation, make a record ready, take
a mark away, clear the cache or invalidate an asset. `Change` lists them with what holds beforehand, and
`change_after` says that there are no others; what becomes of an entry in a run is proved from `Change`.

**Stored records.** Whether an event stores a record is told by the cache before and after it (`Stores`).
Behind it there is always the ending of a computation whose mark stands (`Stores.source`), and that ending
always stores (`stores_of_marks`).
-/

namespace TypedImport.Flights

variable {s s' : Flights} {c : Cache} {key k : CacheKey} {fingerprint : String} {n : Nat} {f : Flight}
  {made : Made} {ending : Ending} {e : Event}

/-! ## Endings without a mark -/

theorem cacheAfter_of_not_marks (h : ¬ c.Marks key n) (ending : Ending) :
    cacheAfter c key n ending = c := by
  cases ending with
  | record r => exact Cache.complete_of_not_marks h (some r)
  | failed error => exact Cache.complete_of_not_marks h none
  | panicked message => rfl

theorem afterSight_of_not_marks (h : ¬ s.cache.Marks key n) (ending : Ending) :
    s.afterSight n key ending = s := by
  cases ending with
  | record r => rfl
  | failed error => rfl
  | panicked message =>
    show ({ s with cache := s.cache.complete key n none } : Flights) = s
    rw [Cache.complete_of_not_marks h]

/-! ## Changes -/

/-- **An event concerns a key**: it is a request for the key, or it belongs to a computation of it, which
ends or is seen or given up by a request. -/
def Event.Concerns (s : Flights) (key : CacheKey) : Event → Prop
  | .request k _ => k = key
  | .finish n _ => ∃ f : Flight, s.flights[n]? = some f ∧ f.key = key
  | .resume t | .drop t =>
    ∃ (tk : Ticket) (f : Flight), s.tickets[t]? = some tk ∧ s.flights[tk.flight]? = some f ∧
      f.key = key
  | .clear | .invalidate _ => False

/-- An event concerns one key at most. -/
theorem Event.Concerns.unique (h : e.Concerns s key) (h' : e.Concerns s k) : key = k := by
  have same : ∀ {t : Nat},
      (∃ (tk : Ticket) (f : Flight), s.tickets[t]? = some tk ∧ s.flights[tk.flight]? = some f ∧
        f.key = key) →
      (∃ (tk : Ticket) (f : Flight), s.tickets[t]? = some tk ∧ s.flights[tk.flight]? = some f ∧
        f.key = k) → key = k := by
    rintro t ⟨tk, f, ht, hf, rfl⟩ ⟨tk', f', ht', hf', rfl⟩
    rw [ht] at ht'
    cases ht'
    rw [hf] at hf'
    cases hf'
    rfl
  cases e with
  | request asked fingerprint =>
    have hkey : asked = key := h
    have hk : asked = k := h'
    rw [← hkey, hk]
  | finish n ending =>
    obtain ⟨f, hf, rfl⟩ := h
    obtain ⟨f', hf', rfl⟩ := h'
    rw [hf] at hf'
    cases hf'
    rfl
  | resume t => exact same h h'
  | drop t => exact same h h'
  | clear => exact h.elim
  | invalidate url => exact h.elim

/-- An event that concerns a key is no fence. -/
theorem Event.Concerns.not_covers (h : e.Concerns s key) (k : CacheKey) : ¬ e.Covers k := by
  intro hc
  cases e with
  | clear => exact h
  | invalidate url => exact h
  | request asked fingerprint => exact hc
  | finish n ending => exact hc
  | resume t => exact hc
  | drop t => exact hc

/-- **What an event does to the entries**, in each of the cases that there are. -/
inductive Change (s : Flights) : Event → Cache → Prop where
  /-- Nothing. -/
  | same {e : Event} (uncovering : ∀ key, ¬ e.Covers key) : Change s e s.cache
  /-- A computation is marked. -/
  | started {key : CacheKey} {fingerprint : String} (look : s.cache.lookup key fingerprint = .start) :
      Change s (.request key fingerprint) (s.cache.start key s.flights.length fingerprint)
  /-- A record becomes ready. -/
  | published {n : Nat} {f : Flight} {r : Record} (flight : s.flights[n]? = some f)
      (under : f.ending = none) (marks : s.cache.Marks f.key n) :
      Change s (.finish n (.record r)) (s.cache.publish f.key ⟨n, r⟩)
  /-- A mark goes, for there will be no record. -/
  | removed {e : Event} {key : CacheKey} {n : Nat} (concerns : e.Concerns s key)
      (marks : s.cache.Marks key n) :
      Change s e (s.cache.complete key n none)
  | cleared : Change s .clear s.cache.clear
  | invalidated {url : String} : Change s (.invalidate url) (s.cache.invalidate url)

/-- Without a record, an ending takes the mark of its computation away, if that stands. -/
theorem change_complete_none (concerns : e.Concerns s key) (n : Nat) :
    Change s e (s.cache.complete key n none) := by
  by_cases hm : s.cache.Marks key n
  · exact .removed concerns hm
  · rw [Cache.complete_of_not_marks hm]
    exact .same concerns.not_covers

theorem change_afterSight (concerns : e.Concerns s key) (hc : s'.cache = s.cache)
    (ending : Ending) : Change s e (s'.afterSight n key ending).cache := by
  cases ending with
  | record r =>
    rw [show (s'.afterSight n key (.record r)).cache = s.cache from hc]
    exact .same concerns.not_covers
  | failed error =>
    rw [show (s'.afterSight n key (.failed error)).cache = s.cache from hc]
    exact .same concerns.not_covers
  | panicked message =>
    show Change s e (s'.cache.complete key n none)
    rw [hc]
    exact change_complete_none concerns n

theorem change_cacheAfter (flight : s.flights[n]? = some f) (under : f.ending = none)
    (ending : Ending) : Change s (.finish n ending) (cacheAfter s.cache f.key n ending) := by
  have concerns : ∀ ending, (Event.finish n ending).Concerns s f.key := fun _ => ⟨f, flight, rfl⟩
  cases ending with
  | record r =>
    show Change s _ (s.cache.complete f.key n (some r))
    by_cases hm : s.cache.Marks f.key n
    · rw [Cache.complete_of_marks hm]
      exact .published flight under hm
    · rw [Cache.complete_of_not_marks hm]
      exact .same (concerns _).not_covers
  | failed error => exact change_complete_none (concerns _) n
  | panicked message => exact .same (concerns _).not_covers

/-- **Every step changes the entries in one of these ways.** -/
theorem Step.change (step : Step s e s') (h : s.Sound) : Change s e s'.cache := by
  cases step with
  | answered => exact .same fun _ => id
  | joined => exact .same fun _ => id
  | @joinedLate key fingerprint n f ending look flight ended =>
    have concerns : (Event.request key fingerprint).Concerns s f.key := by
      obtain ⟨f', hf', hkey, -⟩ := h.mark key n fingerprint (Cache.lookup_eq_join_iff.1 look)
      rw [flight] at hf'
      cases hf'
      exact hkey.symm
    exact change_afterSight concerns addTicket_cache ending
  | started look => exact .started look
  | finished flight under => exact change_cacheAfter flight under _
  | unfinished => exact .same fun _ => id
  | @resumed t tk f ending ticket waits flight ended =>
    have concerns : (Event.resume t).Concerns s f.key := ⟨tk, f, ticket, flight, rfl⟩
    exact change_afterSight concerns (setTicket_cache _) ending
  | unresumed => exact .same fun _ => id
  | dropped => exact .same fun _ => id
  | undropped => exact .same fun _ => id
  | cleared => exact .cleared
  | invalidated => exact .invalidated

theorem change_after (h : s.Sound) (e : Event) : Change s e (s.after e).cache :=
  (step_after h e).change h

/-! ## Stored records -/

/-- **An event stores a record** under a key: it is there afterwards and was not before. -/
def Stores (s : Flights) (e : Event) (key : CacheKey) (made : Made) : Prop :=
  s.cache.get? key ≠ some made ∧ (s.after e).cache.get? key = some made

theorem get?_eq_none_of_marks (h : c.Marks key n) : c.get? key = none := by
  obtain ⟨fingerprint, hk⟩ := h
  unfold Cache.get?
  rw [hk]

/-- **A record that is ready after an event** was so before, and the event is no fence of its key, or it
is what a marked computation ends with. -/
theorem Change.ready (h : Change s e c) (hr : c.get? key = some made) :
    s.cache.get? key = some made ∧ ¬ e.Covers key ∨
      ∃ f, s.flights[made.computation]? = some f ∧ f.key = key ∧ f.ending = none ∧
        s.cache.Marks key made.computation ∧ e = .finish made.computation (.record made.record) := by
  rw [Cache.get?_eq_some_iff] at hr ⊢
  cases h with
  | same uncovering => exact .inl ⟨hr, uncovering key⟩
  | started =>
    rw [Cache.get?_start] at hr
    split at hr
    · cases hr
    · exact .inl ⟨hr, id⟩
  | @published n f r flight under marks =>
    rcases Cache.get?_publish_ready _ _ hr with ⟨rfl, rfl⟩ | ⟨-, hold⟩
    · exact .inr ⟨f, flight, rfl, under, marks, rfl⟩
    · exact .inl ⟨hold, id⟩
  | removed concerns =>
    rcases Cache.get?_complete_ready none made hr with ⟨-, -, hnone, -⟩ | hold
    · cases hnone
    · exact .inl ⟨hold, concerns.not_covers key⟩
  | cleared =>
    rw [Cache.get?_clear] at hr
    cases hr
  | invalidated =>
    rw [Cache.get?_invalidate] at hr
    split at hr
    next => cases hr
    next hurl => exact .inl ⟨hr, hurl⟩

/-- **A record is stored by the ending of its computation**, whose mark stands until then. -/
theorem Stores.source (h : s.Stores e key made) (sound : s.Sound) :
    ∃ f, s.flights[made.computation]? = some f ∧ f.key = key ∧ f.ending = none ∧
      s.cache.Marks key made.computation ∧ e = .finish made.computation (.record made.record) :=
  ((change_after sound e).ready h.2).resolve_left fun hold => h.1 hold.1

/-- What is ready after an event was so before, or is stored by it. -/
theorem ready_or_stores (sound : s.Sound) (hr : (s.after e).cache.get? key = some made) :
    s.cache.get? key = some made ∨ s.Stores e key made := by
  rcases (change_after sound e).ready hr with ⟨hold, -⟩ | ⟨f, -, -, -, marks, -⟩
  · exact .inl hold
  · have hnone := get?_eq_none_of_marks marks
    exact .inr ⟨by simp [hnone], hr⟩

theorem finish_cache_of_marks (flight : s.flights[n]? = some f) (under : f.ending = none)
    (marks : s.cache.Marks f.key n) (r : Record) :
    (s.finish n (.record r)).cache = s.cache.publish f.key ⟨n, r⟩ := by
  unfold finish
  rw [flight]
  simp only [under, Option.isSome_none, Bool.false_eq_true, if_false]
  exact Cache.complete_of_marks marks r

/-- **A computation whose mark stands stores the record that it ends with.** -/
theorem stores_of_marks (flight : s.flights[n]? = some f) (under : f.ending = none)
    (marks : s.cache.Marks f.key n) (r : Record) : s.Stores (.finish n (.record r)) f.key ⟨n, r⟩ := by
  constructor
  · rw [get?_eq_none_of_marks marks]
    simp
  · show (s.finish n (.record r)).cache.get? f.key = _
    rw [finish_cache_of_marks flight under marks, Cache.get?_eq_some_iff, Cache.get?_publish,
      if_pos rfl]

end TypedImport.Flights
