import TypedImport.Proofs.Cache.Replacement

/-!
# One decode a key and content

Once the record of a key and content is stored, every request for them is served with that instance, and
no computation is started. That ends with an event that displaces the record, and there are three kinds
(`Displaces`): a fence of its key, a record stored for a rival key, and a request for the key that brings
another content. Nothing else does it, be it the ending of an old computation of the key, a failure, a
break or a mark under another handler (`get?_after_of_not_displaces`).

**Honest computations.** A record tells the fingerprint of the content it was made of. The cache believes
it, so the promise is made for runs in which no computation gives a record of another content (`Honest`).
-/

namespace TypedImport.Flights

variable {s : Flights} {key : CacheKey} {fingerprint : String} {n : Nat} {f : Flight} {made : Made}
  {e : Event} {before later events : List Event}

/-- **An event displaces what is kept for a key and a content.** -/
inductive Displaces (s : Flights) (key : CacheKey) (fingerprint : String) : Event → Prop where
  /-- It clears the cache or invalidates the asset. -/
  | fence {e : Event} (covers : e.Covers key) : Displaces s key fingerprint e
  /-- It stores a record of the same asset and type under another handler. -/
  | rival {e : Event} {other : CacheKey} {made : Made} (stores : s.Stores e other made)
      (rivals : key.Rivals other) : Displaces s key fingerprint e
  /-- It is a request for the key that brings another content. -/
  | changed {other : String} (differs : other ≠ fingerprint) :
      Displaces s key fingerprint (.request key other)

/-- **A computation that succeeds gives a record of the content it was started for.** -/
def Honest (events : List Event) : Prop :=
  ∀ (n : Nat) (f : Flight) (r : Record), (run {} events).flights[n]? = some f →
    f.ending = some (.record r) → r.fingerprint = f.fingerprint

/-- **A record stays ready** in any event that does not displace it. -/
theorem get?_after_of_not_displaces (sound : s.Sound) (hr : s.cache.get? key = some made)
    (hp : made.record.fingerprint = fingerprint) (h : ¬ Displaces s key fingerprint e) :
    (s.after e).cache.get? key = some made := by
  have change := change_after sound e
  have unmarked : ∀ n, ¬ s.cache.Marks key n := by
    intro n hmark
    rw [get?_eq_none_of_marks hmark] at hr
    cases hr
  rw [Cache.get?_eq_some_iff] at hr ⊢
  generalize (s.after e).cache = c at change ⊢
  cases change with
  | same => exact hr
  | @started asked content look =>
    rw [Cache.get?_start]
    by_cases hk : key = asked
    · -- a computation is started over a ready record only for another content
      subst hk
      rcases Cache.lookup_eq_start_iff.1 look with hnone | ⟨old, hold, hdiffers⟩
      · rw [hr] at hnone
        cases hnone
      · rw [hr] at hold
        cases hold
        rw [hp] at hdiffers
        exact absurd (.changed (Ne.symm hdiffers)) h
    · rw [if_neg hk, hr]
  | @published n f r flight under marks =>
    have hk : key ≠ f.key := by
      rintro rfl
      exact unmarked n marks
    have hstores := stores_of_marks flight under marks r
    rw [Cache.get?_publish_of_not_rivals hk fun hgone => h (.rival hstores hgone.2), hr]
  | @removed _ other n concerns marks =>
    have hk : key ≠ other := by
      rintro rfl
      exact unmarked n marks
    rw [Cache.get?_complete_none marks, if_neg hk, hr]
  | cleared => exact absurd (.fence trivial) h
  | @invalidated url =>
    have hurl : ¬ key.url = url := fun hurl => h (.fence hurl)
    rw [Cache.get?_invalidate, if_neg hurl, hr]

/-- **A stored record stays ready** as long as no event displaces it. -/
theorem get?_run_of_not_displaced (hstores : (run {} before).Stores e key made)
    (hp : made.record.fingerprint = fingerprint)
    (h : ¬ Happened (fun between e' => Displaces (run {} (before ++ e :: between)) key fingerprint e')
      later) :
    (run {} (before ++ e :: later)).cache.get? key = some made := by
  induction later using List.reverseRecOn with
  | nil =>
    rw [run_concat]
    exact hstores.2
  | append_singleton later e' ih =>
    rw [happened_concat, not_or] at h
    rw [← List.cons_append, ← List.append_assoc, run_concat]
    exact get?_after_of_not_displaces (sound_run _) (ih h.1) hp h.2

/-- In an honest run a stored record is of the content that its computation was started for. -/
theorem Honest.fingerprint_of_stores (honest : Honest (before ++ e :: later))
    (hstores : (run {} before).Stores e key made)
    (hf : (run {} before).flights[made.computation]? = some f) :
    made.record.fingerprint = f.fingerprint := by
  have sound := sound_run before
  have grows := sound.grows (e :: later)
  rw [← run_append] at grows
  obtain ⟨g, hg, -, hgp, -⟩ := grows.flight _ f hf
  have ready : ((run {} before).after e).cache.entries.get? key = some (.ready made) :=
    Cache.get?_eq_some_iff.1 hstores.2
  have sound' := (step_after sound e).sound sound
  obtain ⟨f', hf', -, hend⟩ := sound'.ready key made ready
  obtain ⟨g', hg', -, -, hkept⟩ := (sound'.grows later).flight _ f' hf'
  have hrun : ((run {} before).after e).run later = run {} (before ++ e :: later) := by
    rw [run_append]
    rfl
  rw [hrun, hg] at hg'
  cases hg'
  rw [honest _ g made.record hg (hkept _ hend), hgp]

/-- **That a run decodes a key and content once.** -/
structure DecodedOnce (events : List Event) : Prop where
  /-- Once a computation has stored its record, a request for its key and content hits that instance and
  changes nothing, unless some event since then has displaced it. -/
  kept : ∀ (before : List Event) (e : Event) (later : List Event) (key : CacheKey) (made : Made)
    (f : Flight), events = before ++ e :: later → (run {} before).Stores e key made →
    (run {} before).flights[made.computation]? = some f →
    ¬ Happened (fun between e' =>
      Displaces (run {} (before ++ e :: between)) key f.fingerprint e') later →
    (run {} events).request key f.fingerprint = (.now (.ok ⟨made, .hit⟩), run {} events)
  /-- A computation is started only where its key has no entry, or a ready record of another content. -/
  started : ∀ (i n : Nat) (f : Flight), Starts events i n → (run {} events).flights[n]? = some f →
    (moment events i).cache.entries.get? f.key = none ∨
      ∃ made, (moment events i).cache.get? f.key = some made ∧
        made.record.fingerprint ≠ f.fingerprint

theorem Starts.lookup {i : Nat} (h : Starts events i n) (hf : (run {} events).flights[n]? = some f) :
    (moment events i).cache.lookup f.key f.fingerprint = .start := by
  obtain ⟨t, ha⟩ := h.attaches hf
  obtain ⟨hr, rfl, state, ht⟩ := ha
  rcases (step_moment hr).ticket_new ht with ⟨hjoined, -⟩ | ⟨-, hl, -⟩
  · cases hjoined
  · exact hl

/-- **An honest run decodes a key and content once.** -/
theorem decodedOnce_run (events : List Event) (honest : Honest events) : DecodedOnce events where
  kept before e later key made f hsplit hstores hf h := by
    subst hsplit
    have hp := honest.fingerprint_of_stores hstores hf
    have hready := get?_run_of_not_displaced hstores hp h
    rw [Cache.get?_eq_some_iff] at hready
    exact request_of_hit (Cache.lookup_eq_hit_iff.2 ⟨hready, hp⟩)
  started i n f hs hf := by
    rcases Cache.lookup_eq_start_iff.1 (hs.lookup hf) with hnone | ⟨made, hready, hdiffers⟩
    · exact .inl hnone
    · exact .inr ⟨made, Cache.get?_eq_some_iff.2 hready, hdiffers⟩

/-- **A failure under another handler displaces nothing**: a record is stored while a computation of the
same asset is under way under another handler, that one fails, and the next request hits the record. -/
theorem hit_after_failed_rival :
    let key : CacheKey := ⟨"file:///a.csv", ⟨1⟩, "csv"⟩
    let rival : CacheKey := ⟨"file:///a.csv", ⟨2⟩, "csv"⟩
    let r : Record := ⟨[], .inline, key, "v1"⟩
    let events : List Event := [.request rival "v1", .request key "v1", .finish 1 (.record r),
      .finish 0 (.failed (.registry .noTypes))]
    (run {} events).request key "v1" = (.now (.ok ⟨⟨1, r⟩, .hit⟩), run {} events) := by
  intro key rival r events
  have honest : Honest events := by
    rintro (_ | _ | n) f r hf he
    · cases hf
      cases he
    · cases hf
      cases he
      rfl
    · cases hf
  have hstores : (run {} [.request rival "v1", .request key "v1"]).Stores (.finish 1 (.record r)) key
      ⟨1, r⟩ := stores_of_marks (f := ⟨key, "v1", none⟩) rfl rfl ⟨"v1", rfl⟩ r
  refine (decodedOnce_run events honest).kept _ _ [.finish 0 (.failed (.registry .noTypes))] key
    ⟨1, r⟩ ⟨key, "v1", none⟩ rfl hstores rfl ?_
  rw [← List.nil_append [Event.finish 0 _], happened_concat, not_or]
  refine ⟨not_happened_nil, fun displaces => ?_⟩
  cases displaces with
  | fence covers => exact covers
  | rival stores =>
    obtain ⟨f, -, -, -, -, hend⟩ := stores.source (sound_run _)
    have hfailed := (Event.finish.inj hend).2
    cases hfailed

end TypedImport.Flights
