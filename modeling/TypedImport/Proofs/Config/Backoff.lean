import TypedImport.Config.Basic

/-!
# The exact wait

The wait between two fetches is computed in words: a shift that stands for a power of two, a product that
is cut off, and the longest wait at last. `Config.delay` is what they stand for, over all natural numbers:
the first wait, doubled with each attempt, and never longer than the longest. `Config.toNat_backoff` is the
agreement of the two.

**All waits** are exact (`Config.exactWaits`): none wraps, none is longer than the longest, none is shorter than
the one before.

**Cutting off twice.** A factor that does not fit is the largest word, and so is a product that does not
fit. Neither is seen in the wait: all of them are at least the longest wait, or the first wait is zero
(`min_mul_min`).
-/

namespace TypedImport

namespace Config

/-- **The wait after attempt number `attempt`** in exact arithmetic. -/
def delay (c : Config) (attempt : Nat) : Nat :=
  min (c.retryBackoff.toNat * Nat.pow 2 attempt) c.maxBackoff.toNat

@[simp] theorem toNat_maxWord : maxWord.toNat = Nat.pow 2 64 - 1 := rfl

theorem toNat_le_maxWord (n : UInt64) : n.toNat ≤ Nat.pow 2 64 - 1 :=
  Nat.le_sub_one_of_lt n.toNat_lt

/-- A product of words is the exact one, cut off at the largest word. -/
theorem toNat_mulSaturating (a b : UInt64) :
    (mulSaturating a b).toNat = min (a.toNat * b.toNat) (Nat.pow 2 64 - 1) := by
  unfold mulSaturating
  split
  · next h =>
    rw [UInt64.toNat_mul, Nat.mod_eq_of_lt h]
    exact (Nat.min_eq_left (Nat.le_sub_one_of_lt h)).symm
  · next h =>
    have hle : Nat.pow 2 64 - 1 ≤ a.toNat * b.toNat := Nat.le_trans (Nat.sub_le _ _) (Nat.le_of_not_lt h)
    rw [toNat_maxWord, Nat.min_eq_right hle]

/-- A power of two is the exact one, cut off at the largest word. -/
theorem toNat_powerOfTwo (n : UInt32) :
    (powerOfTwo n).toNat = min (Nat.pow 2 n.toNat) (Nat.pow 2 64 - 1) := by
  unfold powerOfTwo
  split
  · next h =>
    have hn : n.toNat < 64 := UInt32.lt_iff_toNat_lt.1 h
    have hlt : Nat.pow 2 n.toNat < Nat.pow 2 64 := Nat.pow_lt_pow_right (by decide) hn
    rw [UInt64.toNat_shiftLeft, UInt32.toNat_toUInt64, Nat.mod_eq_of_lt hn, Nat.shiftLeft_eq,
      UInt64.toNat_one, Nat.one_mul]
    exact (Nat.mod_eq_of_lt hlt).trans (Nat.min_eq_left (Nat.le_sub_one_of_lt hlt)).symm
  · next h =>
    have hn : 64 ≤ n.toNat := Nat.le_of_not_lt fun hlt => h (UInt32.lt_iff_toNat_lt.2 hlt)
    have hle : Nat.pow 2 64 ≤ Nat.pow 2 n.toNat := Nat.pow_le_pow_right (by decide) hn
    rw [toNat_maxWord, Nat.min_eq_right (Nat.le_trans (Nat.sub_le _ _) hle)]

/-- A factor and a product that are both cut off at `top` give the exact minimum with any `most` that
is not above `top`. -/
theorem min_mul_min {top most : Nat} (a b : Nat) (h : most ≤ top) :
    min (min (a * min b top) top) most = min (a * b) most := by
  rw [Nat.min_assoc, Nat.min_eq_right h]
  obtain rfl | ha := Nat.eq_zero_or_pos a
  · rw [Nat.zero_mul, Nat.zero_mul]
  obtain hb | hb := Nat.le_total b top
  · rw [Nat.min_eq_left hb]
  · -- the factor is cut off, and both products are then past `most`
    have hcut : most ≤ a * top := Nat.le_trans h (Nat.le_mul_of_pos_left top ha)
    rw [Nat.min_eq_right hb, Nat.min_eq_right hcut,
      Nat.min_eq_right (Nat.le_trans hcut (Nat.mul_le_mul_left a hb))]

theorem toNat_min (a b : UInt64) : (min a b).toNat = min a.toNat b.toNat := by
  show (if a ≤ b then a else b).toNat = min a.toNat b.toNat
  simp only [Nat.min_def, ← UInt64.le_iff_toNat_le, apply_ite UInt64.toNat]

/-- **The wait that is computed is the exact one.** -/
theorem toNat_backoff (c : Config) (attempt : UInt32) :
    (c.backoff attempt).toNat = c.delay attempt.toNat := by
  rw [backoff, toNat_min, toNat_mulSaturating, toNat_powerOfTwo,
    min_mul_min _ _ (toNat_le_maxWord c.maxBackoff), delay]

/-! ## How waits grow -/

/-- Each wait is twice the one before, as far as the longest allows. -/
theorem delay_succ (c : Config) (attempt : Nat) :
    c.delay (attempt + 1) = min (2 * c.delay attempt) c.maxBackoff.toNat := by
  have doubled : c.retryBackoff.toNat * Nat.pow 2 (attempt + 1) =
      2 * (c.retryBackoff.toNat * Nat.pow 2 attempt) := by
    have power : Nat.pow 2 (attempt + 1) = 2 * Nat.pow 2 attempt := Nat.pow_succ'
    rw [power, Nat.mul_left_comm]
  have cut := min_mul_min 2 (c.retryBackoff.toNat * Nat.pow 2 attempt) (Nat.le_refl c.maxBackoff.toNat)
  rw [delay, doubled, ← cut, Nat.min_assoc, Nat.min_self, delay]

theorem delay_le_delay (c : Config) {i j : Nat} (h : i ≤ j) : c.delay i ≤ c.delay j := by
  have power : Nat.pow 2 i ≤ Nat.pow 2 j := Nat.pow_le_pow_right (by decide) h
  have product := Nat.mul_le_mul_left c.retryBackoff.toNat power
  exact Nat.le_min.2 ⟨Nat.le_trans (Nat.min_le_left ..) product, Nat.min_le_right ..⟩

/-- From attempt 64 on only the longest wait counts, unless there is no first one to double. -/
theorem delay_of_late (c : Config) {attempt : Nat} (late : 64 ≤ attempt) :
    c.delay attempt = if c.retryBackoff = 0 then 0 else c.maxBackoff.toNat := by
  unfold delay
  split
  next none => rw [none, UInt64.toNat_zero, Nat.zero_mul, Nat.zero_min]
  next some =>
    have first : 0 < c.retryBackoff.toNat := Nat.pos_of_ne_zero fun h => some (UInt64.toNat_inj.1 h)
    have word : Nat.pow 2 64 ≤ Nat.pow 2 attempt := Nat.pow_le_pow_right (by decide) late
    refine Nat.min_eq_right (Nat.le_trans (Nat.le_of_lt c.maxBackoff.toNat_lt) (Nat.le_trans word ?_))
    exact Nat.le_mul_of_pos_left _ first

/-- **The waits of a configuration are exact.** -/
structure ExactWaits (c : Config) : Prop where
  /-- A wait is the first one, doubled with each attempt, and the longest one at most. -/
  closed : ∀ attempt : UInt32, (c.backoff attempt).toNat =
    min (c.retryBackoff.toNat * Nat.pow 2 attempt.toNat) c.maxBackoff.toNat
  bounded : ∀ attempt : UInt32, c.backoff attempt ≤ c.maxBackoff
  monotone : ∀ i j : UInt32, i ≤ j → c.backoff i ≤ c.backoff j
  /-- Each is twice the one before, as far as the longest allows. -/
  doubles : ∀ i j : UInt32, j.toNat = i.toNat + 1 →
    (c.backoff j).toNat = min (2 * (c.backoff i).toNat) c.maxBackoff.toNat
  /-- When the factor does not fit a word any more, a wait is the longest one, or none if the first is none. -/
  late : ∀ attempt : UInt32, 64 ≤ attempt →
    c.backoff attempt = if c.retryBackoff = 0 then 0 else c.maxBackoff
  /-- No word on the way wraps: the factor is the exact one, cut off at the largest word, -/
  factor : ∀ attempt : UInt32,
    (powerOfTwo attempt).toNat = min (Nat.pow 2 attempt.toNat) (Nat.pow 2 64 - 1)
  /-- and so is the product. -/
  product : ∀ attempt : UInt32, (mulSaturating c.retryBackoff (powerOfTwo attempt)).toNat =
    min (c.retryBackoff.toNat * Nat.pow 2 attempt.toNat) (Nat.pow 2 64 - 1)

/-- **Whatever the first and the longest wait are, each wait is exact**, for all attempts that a word counts. -/
theorem exactWaits (c : Config) : c.ExactWaits where
  closed := toNat_backoff c
  bounded attempt := by
    rw [UInt64.le_iff_toNat_le, toNat_backoff]
    exact Nat.min_le_right ..
  monotone i j h := by
    rw [UInt64.le_iff_toNat_le, toNat_backoff, toNat_backoff]
    exact c.delay_le_delay (UInt32.le_iff_toNat_le.1 h)
  doubles i j h := by
    rw [toNat_backoff, toNat_backoff, h, delay_succ]
  late attempt h := by
    rw [← UInt64.toNat_inj, toNat_backoff, delay_of_late c (UInt32.le_iff_toNat_le.1 h)]
    split <;> rfl
  factor := toNat_powerOfTwo
  product attempt := by
    have cut := min_mul_min c.retryBackoff.toNat (Nat.pow 2 attempt.toNat) (Nat.le_refl (Nat.pow 2 64 - 1))
    rw [Nat.min_assoc, Nat.min_self] at cut
    rw [toNat_mulSaturating, toNat_powerOfTwo, cut]

/-- A first wait of 100 with none longer than 350, and the attempts at which the cut begins to show. -/
example :
    ([0, 1, 2, 63, 64, 4294967295] : List UInt32).map
      ({ policy := .registryOnly, retryBackoff := 100, maxBackoff := 350 } : Config).backoff =
      [100, 200, 350, 350, 350, 350] := by
  decide

end Config

end TypedImport
