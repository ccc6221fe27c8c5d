import TypedImport.Proofs.Cache.History

/-!
# One computation at a time

However many requests come in for a key, in whatever order with endings, dropped requests, clears and
invalidations, one computation at a time is under way for it, and whoever attaches to that computation
is told the same.

**What is proved.** `SingleFlight` has the four parts of the promise as fields, and
`singleFlight_run` gives them for every run: a key has one computation under way at most, fences aside;
a computation is started by one request, which is told that its record was computed; all others that
attach have joined it and have asked for the same content; and whoever was not dropped is told the
outcome of the computation, the same instance of a record or the same error.
-/

namespace TypedImport

/-- **What a computation comes to** for whoever waits for it: the instance of a record, or an error. -/
def Ending.outcome (number : Nat) (key : CacheKey) : Ending → Except ImportError Made
  | .record r => .ok ⟨number, r⟩
  | .failed error => .error error
  | .panicked message => .error (Flights.panicError key message)

namespace Flights

variable {s : Flights} {key : CacheKey} {fingerprint : String} {n m t i j : Nat} {f g : Flight}
  {events : List Event} {status : CacheStatus}

theorem resultOf_eq_outcome (number : Nat) (key : CacheKey) (status : CacheStatus) (ending : Ending) :
    resultOf number key status ending = (ending.outcome number key).map (Served.mk · status) := by
  cases ending <;> rfl

/-- **That a run keeps to one computation at a time.** -/
structure SingleFlight (events : List Event) : Prop where
  /-- Of the computations of a key that are not fenced off, one at most is under way. -/
  alone : ∀ (n m : Nat) (f g : Flight), (run {} events).flights[n]? = some f →
    (run {} events).flights[m]? = some g → f.key = g.key → f.ending = none → g.ending = none →
    ¬ Fenced events n → ¬ Fenced events m → n = m
  /-- A computation is started by one request, which asks for its key and content and is told
  that its record was computed. -/
  starter : ∀ (n : Nat) (f : Flight), (run {} events).flights[n]? = some f →
    ∃ i t, Starts events i n ∧ Attaches events i f.key f.fingerprint t n .computed ∧
      ∀ j, Starts events j n → j = i
  /-- Any other request that attaches has joined, asks for the same, and starts nothing. -/
  others : ∀ (i j : Nat) (key : CacheKey) (fingerprint : String) (t n : Nat) (status : CacheStatus)
    (f : Flight), Starts events i n → Attaches events j key fingerprint t n status → j ≠ i →
    (run {} events).flights[n]? = some f →
    status = .joined ∧ key = f.key ∧ fingerprint = f.fingerprint ∧ ∀ m, ¬ Starts events j m
  /-- Nobody is told anything of a computation that is under way. -/
  silent : ∀ (j : Nat) (key : CacheKey) (fingerprint : String) (t n : Nat) (status : CacheStatus)
    (f : Flight), Attaches events j key fingerprint t n status →
    (run {} events).flights[n]? = some f → f.ending = none → told? events j = none
  /-- Once it has ended, whoever was not dropped has been told its outcome or is told it when
  resumed. -/
  outcome : ∀ (j : Nat) (key : CacheKey) (fingerprint : String) (t n : Nat) (status : CacheStatus)
    (f : Flight) (ending : Ending) (tk : Ticket), Attaches events j key fingerprint t n status →
    (run {} events).flights[n]? = some f → f.ending = some ending →
    (run {} events).tickets[t]? = some tk → tk.state ≠ .dropped →
    told? events j = some ((ending.outcome n f.key).map (Served.mk · status)) ∨
      told? events j = none ∧
        ((run {} events).resume t).1 = some ((ending.outcome n f.key).map (Served.mk · status))

/-- **One computation of a key is under way.** Two that are not fenced off would both have their mark
at the key. -/
theorem eq_of_under (hf : (run {} events).flights[n]? = some f)
    (hg : (run {} events).flights[m]? = some g) (hkey : f.key = g.key) (hfu : f.ending = none)
    (hgu : g.ending = none) (hn : ¬ Fenced events n) (hm : ¬ Fenced events m) : n = m := by
  have sound := sound_run events
  have hmarkn := (marks_run_iff hf).2 ⟨hn, sound.not_settled_of_under hf hfu⟩
  have hmarkm := (marks_run_iff hg).2 ⟨hm, sound.not_settled_of_under hg hgu⟩
  rw [hkey] at hmarkn
  exact hmarkn.unique hmarkm

theorem Attaches.asks_same (h : Attaches events j key fingerprint t n .joined)
    (hf : (run {} events).flights[n]? = some f) : key = f.key ∧ fingerprint = f.fingerprint := by
  rcases h.cases with ⟨-, hl, -⟩ | ⟨hs, -⟩
  · obtain ⟨g, hg, hk, hp, -⟩ := (moment_sound events j).mark key n fingerprint
      (Cache.lookup_eq_join_iff.1 hl)
    obtain ⟨f', hf', hk', hp', -⟩ := (grows_of_moment events j).flight n g hg
    rw [hf] at hf'
    cases hf'
    exact ⟨hk.symm.trans hk'.symm, hp.symm.trans hp'.symm⟩
  · cases hs

theorem Attaches.told (h : Attaches events j key fingerprint t n status)
    (hf : (run {} events).flights[n]? = some f) {result : Except ImportError Served}
    (ht : told? events j = some result) :
    ∃ ending, f.ending = some ending ∧ result = resultOf n f.key status ending := by
  obtain ⟨tk, htk, hn, hs, htold⟩ := h.told?_eq
  obtain ⟨f', hf', hans⟩ := (sound_run events).ticket t tk htk
  rw [hn, hf] at hf'
  cases hf'
  rw [htold] at ht
  cases hstate : tk.state with
  | answered r =>
    rw [hstate] at ht
    cases ht
    obtain ⟨ending, he, hr⟩ := hans result hstate
    exact ⟨ending, he, by rw [hr, hn, hs]⟩
  | waiting => rw [hstate] at ht; cases ht
  | dropped => rw [hstate] at ht; cases ht

/-- **Every run keeps to one computation at a time.** -/
theorem singleFlight_run (events : List Event) : SingleFlight events where
  alone _ _ _ _ hf hg hkey hfu hgu hn hm := eq_of_under hf hg hkey hfu hgu hn hm
  starter n f hf := by
    have hlen : n < (moment events events.length).flights.length := by
      rw [moment, List.take_length]
      exact (List.getElem?_eq_some_iff.1 hf).1
    obtain ⟨i, -, hs⟩ := starts_of_lt_length events.length (Nat.le_refl _) hlen
    obtain ⟨t, ha⟩ := hs.attaches hf
    exact ⟨i, t, hs, ha, fun j hj => hj.unique hs⟩
  others i j key fingerprint t n status f hs ha hne hf := by
    rcases ha.cases with ⟨rfl, -, hnone⟩ | ⟨-, hs'⟩
    · obtain ⟨hk, hp⟩ := ha.asks_same hf
      exact ⟨rfl, hk, hp, hnone⟩
    · exact absurd (hs'.unique hs) hne
  silent j key fingerprint t n status f ha hf hu := by
    cases ht : told? events j with
    | none => rfl
    | some result =>
      obtain ⟨ending, he, -⟩ := ha.told hf ht
      rw [hu] at he
      cases he
  outcome j key fingerprint t n status f ending tk ha hf he htk hd := by
    rw [← resultOf_eq_outcome]
    obtain ⟨tk', htk', hn, hs, htold⟩ := ha.told?_eq
    rw [htk] at htk'
    cases htk'
    cases hstate : tk.state with
    | dropped => exact absurd hstate hd
    | answered r =>
      have htold' : told? events j = some r := by rw [htold, hstate]; rfl
      obtain ⟨ending', he', hr⟩ := ha.told hf htold'
      rw [he] at he'
      cases he'
      exact .inl (by rw [htold', hr])
    | waiting =>
      refine .inr ⟨by rw [htold, hstate]; rfl, ?_⟩
      rw [resume_of_ended htk hstate (by rw [hn]; exact hf) he, hn, hs]

end Flights

end TypedImport
