import TypedImport.Proofs.Cache.History

/-!
# Requests that are refused for another content

While the mark of a computation stands at a key, a request for the key that brings another content is
refused at once. `Refusal` says when that is so and what the request is told, and that it is as if it had
never come: no computation is started for it, and the run without it goes through the same states and tells
every other request the same (`Traceless`).

**Two runs.** The run with the request has one event more. `skip` gives the number that an event of the
shorter run has in the longer one; moments, answers and computations are compared through it.

**In flight.** A computation is in flight as long as its mark stands. That is until it ends with a record or
an error, and for one that breaks off until a request has seen the break (`marks_run_iff`).
-/

namespace TypedImport

/-- **A request is refused for another content**: it is told so at once. -/
def Reply.IsConflict (reply : Reply) : Prop :=
  ∃ url type handler expected actual,
    reply = .now (.error (.cacheConsistency url type handler expected actual))

namespace Flights

variable {s : Flights} {key : CacheKey} {fingerprint : String} {n : Nat} {f : Flight} {e : Event}
  {before : List Event}

/-- **A computation conflicts with a request** for a key and a content: its mark stands at the key, and it
was started for another content. -/
structure Conflicting (s : Flights) (key : CacheKey) (fingerprint : String) (n : Nat) (f : Flight) :
    Prop where
  flight : s.flights[n]? = some f
  mark : s.cache.Marks key n
  key : f.key = key
  differs : f.fingerprint ≠ fingerprint

/-! ## One event more -/

/-- The number of an event in the run that has one event more, at place `i`. -/
def skip (i j : Nat) : Nat :=
  if j < i then j else j + 1

theorem getElem?_skip (before : List Event) (e : Event) (later : List Event) (j : Nat) :
    (before ++ e :: later)[skip before.length j]? = (before ++ later)[j]? := by
  unfold skip
  by_cases hj : j < before.length
  · rw [if_pos hj, List.getElem?_append_left hj, List.getElem?_append_left hj]
  · have hle : before.length ≤ j := Nat.le_of_not_lt hj
    have hsucc : j + 1 - before.length = (j - before.length) + 1 := by omega
    rw [if_neg hj, List.getElem?_append_right (Nat.le_succ_of_le hle),
      List.getElem?_append_right hle, hsucc, List.getElem?_cons_succ]

/-- Up to the event more, two runs go through the same states. -/
theorem moment_before (before : List Event) (e : Event) (later : List Event) {j : Nat}
    (hj : j ≤ before.length) : moment (before ++ e :: later) j = moment (before ++ later) j := by
  unfold moment
  rw [List.take_append_of_le_length hj, List.take_append_of_le_length hj]

/-- After an event that changes nothing, the two runs go on through the same states. -/
theorem moment_after (same : (run {} before).after e = run {} before) (later : List Event) {j : Nat}
    (hj : before.length ≤ j) :
    moment (before ++ e :: later) (j + 1) = moment (before ++ later) j := by
  have hsucc : j + 1 - before.length = (j - before.length) + 1 := by omega
  unfold moment
  rw [List.take_append, List.take_append, List.take_of_length_le hj,
    List.take_of_length_le (Nat.le_succ_of_le hj), hsucc, List.take_succ_cons, run_append, run_append]
  show ((run {} before).after e).run _ = _
  rw [same]

theorem run_of_same (same : (run {} before).after e = run {} before) (later : List Event) :
    run {} (before ++ e :: later) = run {} (before ++ later) := by
  rw [run_append, run_append]
  show ((run {} before).after e).run later = _
  rw [same]

/-- **An event of a run leaves no trace**: the run without it goes through the same states, and each of its
requests starts, joins and is told the same. -/
structure Traceless (before : List Event) (e : Event) (later : List Event) : Prop where
  /-- The state before each of the other events is the same: all entries, all computations and so the next
  generation, and all requests that wait or have waited. -/
  state : ∀ j, moment (before ++ e :: later) (skip before.length j) = moment (before ++ later) j
  /-- So is the state in the end. -/
  final : run {} (before ++ e :: later) = run {} (before ++ later)
  told : ∀ j, told? (before ++ e :: later) (skip before.length j) = told? (before ++ later) j
  starts : ∀ j n, Starts (before ++ e :: later) (skip before.length j) n ↔
    Starts (before ++ later) j n
  attaches : ∀ j key fingerprint t n status,
    Attaches (before ++ e :: later) (skip before.length j) key fingerprint t n status ↔
      Attaches (before ++ later) j key fingerprint t n status

/-- **An event that changes nothing leaves no trace**, whatever comes after it. -/
theorem traceless_of_same (same : (run {} before).after e = run {} before) (later : List Event) :
    Traceless before e later := by
  have state : ∀ j, moment (before ++ e :: later) (skip before.length j) = moment (before ++ later) j := by
    intro j
    unfold skip
    split
    next hj => exact moment_before before e later (Nat.le_of_lt hj)
    next hj => exact moment_after same later (Nat.le_of_not_lt hj)
  -- the state after an event is compared apart, for the event more may come right after it
  have next : ∀ j, moment (before ++ e :: later) (skip before.length j + 1) =
      moment (before ++ later) (j + 1) := by
    intro j
    unfold skip
    split
    next hj => exact moment_before before e later hj
    next hj => exact moment_after same later (Nat.le_succ_of_le (Nat.le_of_not_lt hj))
  have final := run_of_same same later
  refine ⟨state, final, fun j => ?_, fun j n => ?_, fun j key fingerprint t n status => ?_⟩
  · unfold told?
    rw [getElem?_skip, state, final]
  · unfold Starts
    rw [getElem?_skip, state, next]
  · constructor
    · intro h
      exact ⟨getElem?_skip before e later j ▸ h.request, state j ▸ h.number, next j ▸ h.ticket⟩
    · intro h
      exact ⟨(getElem?_skip before e later j).symm ▸ h.request, (state j).symm ▸ h.number,
        (next j).symm ▸ h.ticket⟩

/-! ## Conflicts -/

theorem Sound.isConflict_iff_lookup (h : s.Sound) :
    (s.request key fingerprint).1.IsConflict ↔
      ∃ expected, s.cache.lookup key fingerprint = .conflict expected := by
  constructor
  · intro refused
    obtain ⟨url, type, handler, expected, actual, hreply⟩ := refused
    cases hl : s.cache.lookup key fingerprint with
    | hit made =>
      rw [request_of_hit hl] at hreply
      cases hreply
    | conflict other => exact ⟨other, rfl⟩
    | join n =>
      -- who joins is told at once only of a break
      obtain ⟨f, hf, -, -, hend⟩ := h.mark key n fingerprint (Cache.lookup_eq_join_iff.1 hl)
      rcases hend with hunder | ⟨⟨message, hbroke⟩, -⟩
      · rw [request_of_join hl hf hunder] at hreply
        cases hreply
      · rw [request_of_late_join hl hf hbroke] at hreply
        cases hreply
    | start =>
      rw [request_of_start hl] at hreply
      cases hreply
  · intro conflict
    obtain ⟨expected, hl⟩ := conflict
    rw [request_of_conflict hl]
    exact ⟨_, _, _, _, _, rfl⟩

/-- **The cache tells of a conflict exactly if there is a computation that conflicts.** -/
theorem Sound.lookup_eq_conflict_iff (h : s.Sound) {expected : String} :
    s.cache.lookup key fingerprint = .conflict expected ↔
      ∃ n f, s.Conflicting key fingerprint n f ∧ f.fingerprint = expected := by
  rw [Cache.lookup_eq_conflict_iff]
  constructor
  · intro differing
    obtain ⟨⟨n, hk⟩, hdiffers⟩ := differing
    obtain ⟨f, hf, hkey, hfp, -⟩ := h.mark key n expected hk
    exact ⟨n, f, ⟨hf, ⟨expected, hk⟩, hkey, hfp ▸ hdiffers⟩, hfp⟩
  · intro conflicting
    obtain ⟨n, f, ⟨hf, ⟨marked, hk⟩, -, hdiffers⟩, rfl⟩ := conflicting
    obtain ⟨f', hf', -, hfp, -⟩ := h.mark key n marked hk
    rw [hf] at hf'
    cases hf'
    exact ⟨⟨n, hfp ▸ hk⟩, hdiffers⟩

/-- **What a request that comes after the events `before` has to do with computations of other
contents.** -/
structure Refusal (before : List Event) (key : CacheKey) (fingerprint : String) : Prop where
  /-- It is refused exactly if there is a computation that conflicts with it. -/
  exact : ((run {} before).request key fingerprint).1.IsConflict ↔
    ∃ n f, (run {} before).Conflicting key fingerprint n f
  /-- Then it is told its key, the content of that computation and its own. -/
  report : ∀ (n : Nat) (f : Flight), (run {} before).Conflicting key fingerprint n f →
    ((run {} before).request key fingerprint).1 =
      .now (.error (.cacheConsistency key.url key.type key.handler f.fingerprint fingerprint))
  /-- No computation is started for it. -/
  unstarted : ((run {} before).request key fingerprint).1.IsConflict → ∀ (later : List Event) (n : Nat),
    ¬ Starts (before ++ .request key fingerprint :: later) before.length n
  /-- It leaves no trace, however the run goes on. -/
  traceless : ((run {} before).request key fingerprint).1.IsConflict → ∀ (later : List Event),
    Traceless before (.request key fingerprint) later

theorem after_of_isConflict (h : ((run {} before).request key fingerprint).1.IsConflict) :
    (run {} before).after (.request key fingerprint) = run {} before := by
  obtain ⟨expected, hl⟩ := (sound_run before).isConflict_iff_lookup.1 h
  show ((run {} before).request key fingerprint).2 = _
  rw [request_of_conflict hl]

theorem not_starts_of_same (same : (run {} before).after e = run {} before) (later : List Event)
    (n : Nat) : ¬ Starts (before ++ e :: later) before.length n := by
  intro starts
  obtain ⟨-, -, -, hn, hn'⟩ := starts
  rw [moment_after same later (Nat.le_refl _), ← moment_before before e later (Nat.le_refl _), hn] at hn'
  omega

/-- **A request that is refused for another content is as if it had never come.** -/
theorem refusal_run (before : List Event) (key : CacheKey) (fingerprint : String) :
    Refusal before key fingerprint where
  exact := by
    have sound := sound_run before
    rw [sound.isConflict_iff_lookup]
    constructor
    · intro conflict
      obtain ⟨expected, hl⟩ := conflict
      obtain ⟨n, f, hc, -⟩ := sound.lookup_eq_conflict_iff.1 hl
      exact ⟨n, f, hc⟩
    · intro conflicting
      obtain ⟨n, f, hc⟩ := conflicting
      exact ⟨f.fingerprint, sound.lookup_eq_conflict_iff.2 ⟨n, f, hc, rfl⟩⟩
  report n f hc := by
    have hl := (sound_run before).lookup_eq_conflict_iff.2 ⟨n, f, hc, rfl⟩
    rw [request_of_conflict hl]
  unstarted h later n := not_starts_of_same (after_of_isConflict h) later n
  traceless h later := traceless_of_same (after_of_isConflict h) later

/-- While a computation of the old content is under way, a request with a new one is refused. -/
example :
    let key : CacheKey := ⟨"file:///a.csv", ⟨1⟩, "csv"⟩
    ((run {} [.request key "old"]).request key "new").1 =
      .now (.error (.cacheConsistency "file:///a.csv" "csv" ⟨1⟩ "old" "new")) := rfl

end Flights

end TypedImport
