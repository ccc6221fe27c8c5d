import TypedImport.Proofs.Cache.Changes

/-!
# One record an asset and type

The keys of a cache are told apart by their handlers, too, so nothing in how it is laid out keeps two
records of one asset and type from being ready under two handlers. A record that is stored takes those of
its rivals away: `Stores.alone` says that right after it there is no other of its asset and type, and
`oneRecord_run` that there never is, since the one that is ready is the one stored last.

**The frame.** An event that concerns a key leaves the entries of all other keys alone, but for the ready
records that give way to one that it stores (`get?_after_of_concerns`). Marks give way to nothing.
-/

namespace TypedImport

/-- **Two keys are rivals**: they are of one asset and type under different handlers. -/
def CacheKey.Rivals (k key : CacheKey) : Prop :=
  k.url = key.url ∧ k.type = key.type ∧ k.handler ≠ key.handler

theorem CacheKey.rivals_of_ne {k key : CacheKey} (hk : k ≠ key) (hurl : k.url = key.url)
    (htype : k.type = key.type) : k.Rivals key := by
  refine ⟨hurl, htype, fun hhandler => hk ?_⟩
  obtain ⟨url, handler, type⟩ := k
  cases hurl
  cases htype
  cases hhandler
  rfl

theorem CacheKey.Rivals.ne {k key : CacheKey} (h : k.Rivals key) : k ≠ key := by
  rintro rfl
  exact h.2.2 rfl

namespace Cache

variable {c : Cache} {key k : CacheKey} {made old : Made}

/-- A record that becomes ready takes the ready record of a rival away. -/
theorem get?_publish_of_rivals (hold : c.get? k = some old) (h : k.Rivals key) :
    (c.publish key made).entries.get? k = none := by
  have hk := get?_eq_some_iff.1 hold
  obtain ⟨hurl, htype, hhandler⟩ := h
  rw [get?_publish, if_neg (CacheKey.Rivals.ne ⟨hurl, htype, hhandler⟩), hk]
  simp [isReplacedBy, Entry.isReady, hurl, htype, hhandler]

/-- It takes nothing else away. -/
theorem get?_publish_of_not_rivals (hk : k ≠ key)
    (h : ¬ ((∃ old, c.get? k = some old) ∧ k.Rivals key)) :
    (c.publish key made).entries.get? k = c.entries.get? k := by
  rw [get?_publish, if_neg hk]
  cases hentry : c.entries.get? k with
  | none => rfl
  | some entry =>
    cases entry with
    | inFlight n fingerprint => rfl
    | ready old =>
      have hnot : ¬ k.Rivals key := fun hr => h ⟨⟨old, get?_eq_some_iff.2 hentry⟩, hr⟩
      have hkept : isReplacedBy key (k, .ready old) = false := by
        rw [Bool.eq_false_iff]
        intro hgoes
        apply hnot
        simpa [isReplacedBy, Entry.isReady, CacheKey.Rivals, and_assoc] using hgoes
      simp [hkept]

end Cache

namespace Flights

variable {s : Flights} {key k : CacheKey} {made made' : Made} {e : Event} {events : List Event}

/-! ## The frame of an event -/

theorem Stores.cache (h : s.Stores e key made) (sound : s.Sound) :
    (s.after e).cache = s.cache.publish key made := by
  obtain ⟨f, flight, rfl, under, marks, rfl⟩ := h.source sound
  exact finish_cache_of_marks flight under marks made.record

/-- **A stored record is alone**: after the event no other of its asset and type is ready. -/
theorem Stores.alone (h : s.Stores e key made) (sound : s.Sound)
    (hk : (s.after e).cache.get? k = some made') (hurl : k.url = key.url)
    (htype : k.type = key.type) : k = key ∧ made' = made := by
  rw [h.cache sound, Cache.get?_eq_some_iff] at hk
  rcases Cache.get?_publish_ready _ _ hk with hown | ⟨hne, hold⟩
  · exact hown
  · have hgone : (s.cache.publish key made).entries.get? k = none :=
      Cache.get?_publish_of_rivals (Cache.get?_eq_some_iff.2 hold)
        (CacheKey.rivals_of_ne hne hurl htype)
    rw [hgone] at hk
    cases hk

/-- **An event leaves the entries of keys that it does not concern alone**, but for ready records of
rivals of a key under which it stores a record. -/
theorem get?_after_of_concerns (sound : s.Sound) (concerns : e.Concerns s key) (hk : k ≠ key)
    (h : ¬ ((∃ made, s.Stores e key made) ∧ (∃ old, s.cache.get? k = some old) ∧ k.Rivals key)) :
    (s.after e).cache.entries.get? k = s.cache.entries.get? k := by
  have change := change_after sound e
  generalize (s.after e).cache = c at change
  cases change with
  | same => rfl
  | started =>
    obtain rfl := concerns
    rw [Cache.get?_start, if_neg hk]
  | @published n f r flight under marks =>
    have hkey : (Event.finish n (.record r)).Concerns s f.key := ⟨f, flight, rfl⟩
    obtain rfl := hkey.unique concerns
    have hstores := stores_of_marks flight under marks r
    exact Cache.get?_publish_of_not_rivals hk fun hr => h ⟨⟨_, hstores⟩, hr⟩
  | removed own marks =>
    obtain rfl := own.unique concerns
    rw [Cache.get?_complete_none marks, if_neg hk]
  | cleared => exact concerns.elim
  | invalidated => exact concerns.elim

/-! ## Runs -/

/-- An event stores a record of an asset and type, under whatever handler. -/
def StoresOf (s : Flights) (e : Event) (url type : String) : Prop :=
  ∃ key made, s.Stores e key made ∧ key.url = url ∧ key.type = type

/-- **That a run keeps one record an asset and type**, and that its next event touches no more than it
must. -/
structure OneRecord (events : List Event) : Prop where
  /-- Two ready records of one asset and type are the same, under the same key. -/
  unique : ∀ (key key' : CacheKey) (made made' : Made), (run {} events).cache.get? key = some made →
    (run {} events).cache.get? key' = some made' → key.url = key'.url → key.type = key'.type →
    key = key' ∧ made = made'
  /-- A ready record was stored in some event, and none of its asset and type was stored after that. -/
  latest : ∀ (key : CacheKey) (made : Made), (run {} events).cache.get? key = some made →
    ∃ before e later, events = before ++ e :: later ∧ (run {} before).Stores e key made ∧
      ¬ Happened (fun between e' =>
        (run {} (before ++ e :: between)).StoresOf e' key.url key.type) later
  /-- A record that is stored under a key takes the ready records of the key's rivals away. -/
  replaced : ∀ (e : Event) (key k : CacheKey) (made old : Made), (run {} events).Stores e key made →
    (run {} events).cache.get? k = some old → k.Rivals key →
    ((run {} events).after e).cache.entries.get? k = none
  /-- Any other entry under another key than the one that an event concerns stays as it is. -/
  framed : ∀ (e : Event) (key k : CacheKey), e.Concerns (run {} events) key → k ≠ key →
    ¬ ((∃ made, (run {} events).Stores e key made) ∧
      (∃ old, (run {} events).cache.get? k = some old) ∧ k.Rivals key) →
    ((run {} events).after e).cache.entries.get? k = (run {} events).cache.entries.get? k
  /-- So entries of other assets and of other types stay, and so do marks under other handlers. -/
  untouched : ∀ (e : Event) (key k : CacheKey), e.Concerns (run {} events) key → k ≠ key →
    (k.url ≠ key.url ∨ k.type ≠ key.type ∨ ∃ n, (run {} events).cache.Marks k n) →
    ((run {} events).after e).cache.entries.get? k = (run {} events).cache.entries.get? k

/-- **Two ready records of one asset and type are the same.** Of two that were not ready together before,
one is stored just now, and then it is alone. -/
theorem unique_run (events : List Event) {key key' : CacheKey}
    (hr : (run {} events).cache.get? key = some made)
    (hr' : (run {} events).cache.get? key' = some made') (hurl : key.url = key'.url)
    (htype : key.type = key'.type) : key = key' ∧ made = made' := by
  induction events using List.reverseRecOn with
  | nil => cases hr
  | append_singleton events e ih =>
    have sound := sound_run events
    rw [run_concat] at hr hr'
    rcases ready_or_stores sound hr with hold | hnew
    · rcases ready_or_stores sound hr' with hold' | hnew'
      · exact ih hold hold'
      · exact hnew'.alone sound hr hurl htype
    · obtain ⟨hkey, hmade⟩ := hnew.alone sound hr' hurl.symm htype.symm
      exact ⟨hkey.symm, hmade.symm⟩

/-- **The record that is ready is the one stored last** of its asset and type. -/
theorem latest_run (events : List Event) (hr : (run {} events).cache.get? key = some made) :
    ∃ before e later, events = before ++ e :: later ∧ (run {} before).Stores e key made ∧
      ¬ Happened (fun between e' =>
        (run {} (before ++ e :: between)).StoresOf e' key.url key.type) later := by
  induction events using List.reverseRecOn with
  | nil => cases hr
  | append_singleton events e ih =>
    have sound := sound_run events
    rw [run_concat] at hr
    rcases ready_or_stores sound hr with hold | hnew
    · obtain ⟨before, e', later, rfl, hstores, hlast⟩ := ih hold
      refine ⟨before, e', later ++ [e], by simp, hstores, ?_⟩
      rw [happened_concat]
      rintro (hlater | ⟨key', made', hnew, hurl, htype⟩)
      · exact hlast hlater
      · -- the record that `e` stores would be the one that was ready before
        obtain ⟨rfl, rfl⟩ := hnew.alone sound hr hurl.symm htype.symm
        exact hnew.1 hold
    · exact ⟨events, e, [], rfl, hnew, not_happened_nil⟩

/-- **Every run keeps one record an asset and type.** -/
theorem oneRecord_run (events : List Event) : OneRecord events where
  unique key key' made made' hr hr' hurl htype := unique_run events hr hr' hurl htype
  latest key made hr := latest_run events hr
  replaced e key k made old hstores hold hrivals := by
    rw [hstores.cache (sound_run events)]
    exact Cache.get?_publish_of_rivals hold hrivals
  framed e key k concerns hk h := get?_after_of_concerns (sound_run events) concerns hk h
  untouched e key k concerns hk h := by
    refine get?_after_of_concerns (sound_run events) concerns hk ?_
    rintro ⟨-, ⟨old, hold⟩, hrivals⟩
    rcases h with hurl | htype | ⟨n, hmark⟩
    · exact hurl hrivals.1
    · exact htype hrivals.2.1
    · rw [get?_eq_none_of_marks hmark] at hold
      cases hold

end Flights

end TypedImport
