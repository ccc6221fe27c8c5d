import TypedImport.Cache.Basic

/-!
# What a cache holds after each operation

One equation for each operation of a cache: what is found at a key afterwards, in terms of what was
found before. The runs of a cache are reasoned about through these equations; how a table is laid out
plays no part after this module.

**Marks.** `Marks` says that the mark of a computation stands at a key. An operation that ends a
computation does nothing without it (`complete_of_not_marks`), and none but `start` sets one.
-/

namespace TypedImport.Cache

variable {c : Cache} {key k : CacheKey} {n m : Nat}

/-- **The mark of a computation stands at a key.** -/
def Marks (c : Cache) (key : CacheKey) (n : Nat) : Prop :=
  ∃ fingerprint, c.entries.get? key = some (.inFlight n fingerprint)

theorem isCurrent_iff : c.isCurrent key n = true ↔ c.Marks key n := by
  unfold isCurrent Marks
  split
  next m fingerprint h => simp [h]
  next h =>
    simp only [Bool.false_eq_true, false_iff, not_exists]
    intro fingerprint hf
    exact h n fingerprint hf

theorem Marks.unique (h : c.Marks key n) (h' : c.Marks key m) : n = m := by
  obtain ⟨_, hn⟩ := h
  obtain ⟨_, hm⟩ := h'
  rw [hn] at hm
  cases hm
  rfl

theorem get?_eq_some_iff {made : Made} :
    c.get? key = some made ↔ c.entries.get? key = some (.ready made) := by
  unfold get?
  split
  next old h => simp [h]
  next h =>
    simp only [reduceCtorEq, false_iff]
    exact h made

/-- Nothing is counted as under way exactly if no mark stands. -/
theorem inFlightCount_eq_zero_iff : c.inFlightCount = 0 ↔ ∀ key n, ¬ c.Marks key n := by
  unfold inFlightCount
  rw [List.length_eq_zero_iff, List.filter_eq_nil_iff]
  constructor
  · rintro h key n ⟨fingerprint, hk⟩
    exact h _ (Table.mem_of_get? hk) rfl
  · rintro h ⟨key, entry⟩ hmem hready
    have hk := (Table.Distinct.get?_eq_some_iff c.distinct).2 hmem
    cases entry with
    | ready made => cases hready
    | inFlight n fingerprint => exact h key n ⟨fingerprint, hk⟩

/-! ## What a request is told -/

theorem lookup_eq_hit_iff {fingerprint : String} {made : Made} :
    c.lookup key fingerprint = .hit made ↔
      c.entries.get? key = some (.ready made) ∧ made.record.fingerprint = fingerprint := by
  unfold lookup
  split
  next old h =>
    split
    next hfp =>
      simp only [Lookup.hit.injEq, h, Option.some.injEq, Entry.ready.injEq]
      exact ⟨fun heq => ⟨heq, heq ▸ hfp⟩, And.left⟩
    next hfp =>
      simp only [reduceCtorEq, h, Option.some.injEq, Entry.ready.injEq, false_iff, not_and]
      rintro rfl
      exact hfp
  next n expected h => split <;> simp [h]
  next h => simp [h]

theorem lookup_eq_join_iff {fingerprint : String} :
    c.lookup key fingerprint = .join n ↔ c.entries.get? key = some (.inFlight n fingerprint) := by
  unfold lookup
  split
  next old h => split <;> simp [h]
  next m expected h =>
    split
    next hfp => simp [h, hfp]
    next hfp => simp [h, hfp]
  next h => simp [h]

theorem lookup_eq_conflict_iff {fingerprint expected : String} :
    c.lookup key fingerprint = .conflict expected ↔
      (∃ n, c.entries.get? key = some (.inFlight n expected)) ∧ expected ≠ fingerprint := by
  unfold lookup
  split
  next old h => split <;> simp [h]
  next m found h =>
    split
    next hfp =>
      simp only [reduceCtorEq, h, Option.some.injEq, Entry.inFlight.injEq, false_iff, not_and]
      rintro ⟨_, -, rfl⟩ hne
      exact hne hfp
    next hfp =>
      simp only [Lookup.conflict.injEq, h, Option.some.injEq, Entry.inFlight.injEq, exists_and_right]
      constructor
      · rintro rfl
        exact ⟨⟨⟨m, rfl⟩, rfl⟩, hfp⟩
      · exact fun hc => hc.1.2
  next h => simp [h]

/-- **A computation is started only without a mark**, and without a ready record of the content. -/
theorem lookup_eq_start_iff {fingerprint : String} :
    c.lookup key fingerprint = .start ↔
      c.entries.get? key = none ∨
        ∃ made, c.entries.get? key = some (.ready made) ∧ made.record.fingerprint ≠ fingerprint := by
  unfold lookup
  split
  next old h => split <;> simp_all
  next m expected h => split <;> simp [h]
  next h => simp [h]

/-! ## What is found afterwards -/

theorem get?_start (fingerprint : String) :
    (c.start key n fingerprint).entries.get? k =
      if k = key then some (.inFlight n fingerprint) else c.entries.get? k :=
  Table.get?_put ..

theorem get?_clear : c.clear.entries.get? k = none := rfl

theorem get?_invalidate (url : String) :
    (c.invalidate url).entries.get? k = if k.url = url then none else c.entries.get? k := by
  unfold invalidate
  rw [Table.Distinct.get?_filter c.distinct]
  by_cases h : k.url = url
  · simp [h]
  · cases c.entries.get? k with
    | none => simp
    | some entry => simp [h]

theorem get?_publish (made : Made) :
    (c.publish key made).entries.get? k =
      if k = key then some (.ready made)
      else (c.entries.get? k).filter fun entry => !isReplacedBy key (k, entry) := by
  unfold publish
  rw [Table.get?_put, Table.Distinct.get?_filter c.distinct]

theorem complete_of_not_marks (h : ¬ c.Marks key n) (record : Option Record) :
    c.complete key n record = c := by
  unfold complete
  rw [if_neg fun hc => h (isCurrent_iff.1 hc)]

theorem complete_of_marks (h : c.Marks key n) (record : Record) :
    c.complete key n (some record) = c.publish key ⟨n, record⟩ := by
  unfold complete
  rw [if_pos (isCurrent_iff.2 h)]

theorem get?_complete_none (h : c.Marks key n) :
    (c.complete key n none).entries.get? k = if k = key then none else c.entries.get? k := by
  unfold complete
  rw [if_pos (isCurrent_iff.2 h)]
  exact Table.get?_erase ..

/-! ## Marks and records afterwards -/

/-- A record that becomes ready moves no mark of another key. -/
theorem get?_publish_inFlight (made : Made) (fingerprint : String) :
    (c.publish key made).entries.get? k = some (.inFlight n fingerprint) ↔
      k ≠ key ∧ c.entries.get? k = some (.inFlight n fingerprint) := by
  rw [get?_publish]
  by_cases hk : k = key
  · simp [hk]
  · simp [hk, Option.filter_eq_some_iff, isReplacedBy, Entry.isReady]

theorem get?_publish_ready (made old : Made)
    (h : (c.publish key made).entries.get? k = some (.ready old)) :
    k = key ∧ old = made ∨ k ≠ key ∧ c.entries.get? k = some (.ready old) := by
  rw [get?_publish] at h
  by_cases hk : k = key
  · rw [if_pos hk] at h
    cases h
    exact .inl ⟨hk, rfl⟩
  · rw [if_neg hk, Option.filter_eq_some_iff] at h
    exact .inr ⟨hk, h.1⟩

/-- A mark that stands after a computation has ended is of another one and stood before. -/
theorem get?_complete_inFlight (record : Option Record) (fingerprint : String) :
    (c.complete key n record).entries.get? k = some (.inFlight m fingerprint) ↔
      c.entries.get? k = some (.inFlight m fingerprint) ∧ ¬ (k = key ∧ m = n) := by
  by_cases hc : c.Marks key n
  · -- the mark that stands at the key itself is the one of this computation
    have hown : k = key → c.entries.get? k = some (.inFlight m fingerprint) → m = n := by
      rintro rfl hm
      exact Marks.unique ⟨_, hm⟩ hc
    cases record with
    | some r =>
      rw [complete_of_marks hc, get?_publish_inFlight]
      constructor
      · rintro ⟨hk, hm⟩
        exact ⟨hm, fun h => hk h.1⟩
      · rintro ⟨hm, hne⟩
        exact ⟨fun hk => hne ⟨hk, hown hk hm⟩, hm⟩
    | none =>
      rw [get?_complete_none hc]
      by_cases hk : k = key
      · simp only [hk, if_true, reduceCtorEq, true_and, false_iff, not_and]
        intro hm hne
        exact hne (hown hk (hk ▸ hm))
      · simp [hk]
  · rw [complete_of_not_marks hc]
    refine ⟨fun hm => ⟨hm, ?_⟩, And.left⟩
    rintro ⟨rfl, rfl⟩
    exact hc ⟨_, hm⟩

/-- A ready record that is found after a computation has ended is the one that it made, or was there
before. -/
theorem get?_complete_ready (record : Option Record) (made : Made)
    (h : (c.complete key n record).entries.get? k = some (.ready made)) :
    k = key ∧ c.Marks key n ∧ record = some made.record ∧ made.computation = n ∨
      c.entries.get? k = some (.ready made) := by
  by_cases hc : c.Marks key n
  · cases record with
    | some r =>
      rw [complete_of_marks hc] at h
      rcases get?_publish_ready _ _ h with ⟨hk, rfl⟩ | ⟨_, hold⟩
      · exact .inl ⟨hk, hc, rfl, rfl⟩
      · exact .inr hold
    | none =>
      rw [get?_complete_none hc] at h
      split at h
      · cases h
      · exact .inr h
  · rw [complete_of_not_marks hc] at h
    exact .inr h

end TypedImport.Cache
