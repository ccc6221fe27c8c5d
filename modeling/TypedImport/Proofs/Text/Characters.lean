import TypedImport.Proofs.Text.Utf8

/-!
# Characters of UTF-8

Which bytes spell a character (`Spelled`): a first byte that tells their number, and bytes behind it that continue it,
where the second one rules out longer spellings than need be, surrogates and numbers beyond the last character. These
are the bytes that the character is encoded as, and no others (`Spelled.encode`, `spelled_utf8EncodeChar`).

**Decoding is the inverse of encoding** (`decodeChars_eq_ok_iff`). A step of the decoder takes the bytes of one
character off (`decodeFrom_spelled`), and whatever it does not refuse was spelled (`exists_of_decodeFrom`).
-/

namespace TypedImport.Utf8

/-! ## Bytes of a character -/

/-- **The bytes that spell a character.** -/
inductive Spelled : Bytes → Char → Prop
  | one {a : UInt8} (first : a < 0x80) : Spelled [a] (Char.ofNat a.toNat)
  | two {a b : UInt8} (first : 0xc2 ≤ a ∧ a ≤ 0xdf) (second : isTail b = true) : Spelled [a, b] (ofTwo a b)
  | three {a b c : UInt8} (first : 0xe0 ≤ a ∧ a ≤ 0xef) (second : secondOfThree a b = true) (third : isTail c = true) :
    Spelled [a, b, c] (ofThree a b c)
  | four {a b c d : UInt8} (first : 0xf0 ≤ a ∧ a ≤ 0xf4) (second : secondOfFour a b = true) (third : isTail c = true)
    (fourth : isTail d = true) : Spelled [a, b, c, d] (ofFour a b c d)

variable {a b c d : UInt8} {char : Char} {bytes rest : Bytes} {s : List Char} {index : Nat} {done : List Char}

theorem between_iff {low high : UInt8} :
    (decide (low ≤ b) && decide (b ≤ high)) = true ↔ low.toNat ≤ b.toNat ∧ b.toNat ≤ high.toNat := by
  rw [Bool.and_eq_true, decide_eq_true_eq, decide_eq_true_eq, UInt8.le_iff_toNat_le, UInt8.le_iff_toNat_le]

theorem isTail_iff : isTail b = true ↔ 128 ≤ b.toNat ∧ b.toNat ≤ 191 := between_iff

theorem secondOfThree_iff :
    secondOfThree a b = true ↔
      128 ≤ b.toNat ∧ b.toNat ≤ 191 ∧ (a.toNat = 224 → 160 ≤ b.toNat) ∧ (a.toNat = 237 → b.toNat ≤ 159) := by
  simp only [secondOfThree, isTail, ← UInt8.toNat_inj, apply_ite (· = true), between_iff, UInt8.reduceToNat]
  split
  next => omega
  next => split <;> omega

theorem secondOfFour_iff :
    secondOfFour a b = true ↔
      128 ≤ b.toNat ∧ b.toNat ≤ 191 ∧ (a.toNat = 240 → 144 ≤ b.toNat) ∧ (a.toNat = 244 → b.toNat ≤ 143) := by
  simp only [secondOfFour, isTail, ← UInt8.toNat_inj, apply_ite (· = true), between_iff, UInt8.reduceToNat]
  split
  next => omega
  next => split <;> omega

/-- **A character is encoded as the bytes that spell it.** -/
theorem Spelled.encode (h : Spelled bytes char) : String.utf8EncodeChar char = bytes := by
  cases h with
  | @one a first =>
    have low : a.toNat < 128 := first
    have number : (Char.ofNat a.toNat).val.toNat = a.toNat := toNat_ofNat_byte a
    rw [String.utf8EncodeChar.eq_1, number, if_pos (by omega), UInt8.ofNat_toNat]
  | @two a b first second =>
    obtain ⟨hb, hb'⟩ := isTail_iff.1 second
    have ha : 194 ≤ a.toNat := first.1
    have ha' : a.toNat ≤ 223 := first.2
    have number : (ofTwo a b).val.toNat = a.toNat % 32 * 64 + b.toNat % 64 :=
      toNat_ofNat_of_isValid (.inl (by simp only [payload]; omega))
    rw [String.utf8EncodeChar.eq_1, number, if_neg (by omega), if_pos (by omega)]
    simp only [List.cons.injEq, and_true, ← UInt8.toNat_inj, UInt8.toNat_ofNat']
    omega
  | @three a b c first second third =>
    obtain ⟨hb, hb', hb0, hb1⟩ := secondOfThree_iff.1 second
    obtain ⟨hc, hc'⟩ := isTail_iff.1 third
    have ha : 224 ≤ a.toNat := first.1
    have ha' : a.toNat ≤ 239 := first.2
    have number : (ofThree a b c).val.toNat = (a.toNat % 16 * 64 + b.toNat % 64) * 64 + c.toNat % 64 := by
      refine toNat_ofNat_of_isValid ?_
      simp only [payload, Nat.isValidChar]
      omega
    rw [String.utf8EncodeChar.eq_1, number, if_neg (by omega), if_neg (by omega), if_pos (by omega)]
    simp only [List.cons.injEq, and_true, ← UInt8.toNat_inj, UInt8.toNat_ofNat']
    omega
  | @four a b c d first second third fourth =>
    obtain ⟨hb, hb', hb0, hb1⟩ := secondOfFour_iff.1 second
    obtain ⟨hc, hc'⟩ := isTail_iff.1 third
    obtain ⟨hd, hd'⟩ := isTail_iff.1 fourth
    have ha : 240 ≤ a.toNat := first.1
    have ha' : a.toNat ≤ 244 := first.2
    have number : (ofFour a b c d).val.toNat =
        ((a.toNat % 8 * 64 + b.toNat % 64) * 64 + c.toNat % 64) * 64 + d.toNat % 64 := by
      refine toNat_ofNat_of_isValid ?_
      simp only [payload, Nat.isValidChar]
      omega
    rw [String.utf8EncodeChar.eq_1, number, if_neg (by omega), if_neg (by omega), if_neg (by omega)]
    simp only [List.cons.injEq, and_true, ← UInt8.toNat_inj, UInt8.toNat_ofNat']
    omega

/-- **Every character is spelled by the bytes that it is encoded as.** -/
theorem spelled_utf8EncodeChar (char : Char) : Spelled (String.utf8EncodeChar char) char := by
  -- bytes that spell a character at all spell this one, for no two characters have the same bytes
  suffices ∃ other, Spelled (String.utf8EncodeChar char) other by
    obtain ⟨other, spelled⟩ := this
    have alike : encodeChars [other] = encodeChars [char] := by
      rw [encodeChars_cons, encodeChars_cons, spelled.encode]
    rwa [List.singleton_inj.1 (encodeChars_inj.1 alike)] at spelled
  have valid : char.val.toNat < 55296 ∨ 57343 < char.val.toNat ∧ char.val.toNat < 1114112 := char.valid
  rw [String.utf8EncodeChar.eq_1]
  split
  next low =>
    refine ⟨_, .one ?_⟩
    simp only [UInt8.lt_iff_toNat_lt, UInt8.toNat_ofNat', UInt8.reduceToNat]
    omega
  next above =>
    split
    next =>
      refine ⟨_, .two ?_ (isTail_iff.2 ?_)⟩
      · simp only [UInt8.le_iff_toNat_le, UInt8.toNat_ofNat', UInt8.reduceToNat]
        omega
      · rw [UInt8.toNat_ofNat']
        omega
    next above =>
      split
      next =>
        refine ⟨_, .three ?_ (secondOfThree_iff.2 ?_) (isTail_iff.2 ?_)⟩
        · simp only [UInt8.le_iff_toNat_le, UInt8.toNat_ofNat', UInt8.reduceToNat]
          omega
        · simp only [UInt8.toNat_ofNat']
          omega
        · rw [UInt8.toNat_ofNat']
          omega
      next above =>
        refine ⟨_, .four ?_ (secondOfFour_iff.2 ?_) (isTail_iff.2 ?_) (isTail_iff.2 ?_)⟩
        · simp only [UInt8.le_iff_toNat_le, UInt8.toNat_ofNat', UInt8.reduceToNat]
          omega
        · simp only [UInt8.toNat_ofNat']
          omega
        · rw [UInt8.toNat_ofNat']
          omega
        · rw [UInt8.toNat_ofNat']
          omega

/-! ## Decoding -/

/-- A byte from a bound on is outside of a range below the bound. -/
theorem not_between {low high bound : UInt8} (h : bound ≤ a) (below : high < bound) : ¬ (low ≤ a ∧ a ≤ high) :=
  fun inside => UInt8.not_lt.2 (UInt8.le_trans h inside.2) below

/-- **One character is read at a time.** -/
theorem decodeFrom_spelled {front : Bytes} (h : Spelled front char) (index : Nat) (done : List Char) (rest : Bytes) :
    decodeFrom index done (front ++ rest) = decodeFrom (index + front.length) (char :: done) rest := by
  cases h with
  | one first =>
    rw [List.singleton_append, decodeFrom.eq_def]
    exact if_pos first
  | @two a b first second =>
    have notOne : ¬ a < 0x80 := UInt8.not_lt.2 (UInt8.le_trans (by decide) first.1)
    simp [decodeFrom, notOne, first, second]
  | @three a b c first second third =>
    have notOne : ¬ a < 0x80 := UInt8.not_lt.2 (UInt8.le_trans (by decide) first.1)
    have notTwo : ¬ (0xc2 ≤ a ∧ a ≤ 0xdf) := not_between first.1 (by decide)
    simp [decodeFrom, notOne, notTwo, first, second, third]
  | @four a b c d first second third fourth =>
    have notOne : ¬ a < 0x80 := UInt8.not_lt.2 (UInt8.le_trans (by decide) first.1)
    have notTwo : ¬ (0xc2 ≤ a ∧ a ≤ 0xdf) := not_between first.1 (by decide)
    have notThree : ¬ (0xe0 ≤ a ∧ a ≤ 0xef) := not_between first.1 (by decide)
    simp [decodeFrom, notOne, notTwo, notThree, first, second, third, fourth]

/-- Whatever was read before, the text that was encoded is read behind it. -/
theorem decodeFrom_encodeChars (s : List Char) (index : Nat) (done : List Char) :
    decodeFrom index done (encodeChars s) = .ok (done.reverse ++ s) := by
  induction s generalizing index done with
  | nil => rw [encodeChars_nil, List.append_nil]; rfl
  | cons char rest ih =>
    rw [encodeChars_cons, decodeFrom_spelled (spelled_utf8EncodeChar char), ih, List.reverse_cons, List.append_assoc]
    rfl

/-- A character in front of what was read of the rest. -/
theorem exists_of_spelled {front : Bytes} (spelled : Spelled front char)
    (h : ∃ text, s = (char :: done).reverse ++ text ∧ encodeChars text = rest) :
    ∃ text, s = done.reverse ++ text ∧ encodeChars text = front ++ rest := by
  obtain ⟨text, rfl, rfl⟩ := h
  exact ⟨char :: text, by rw [List.reverse_cons, List.append_assoc]; rfl, by rw [encodeChars_cons, spelled.encode]⟩

/-- **What was read is encoded as the bytes that it was read from.** -/
theorem exists_of_decodeFrom (h : decodeFrom index done bytes = .ok s) :
    ∃ text, s = done.reverse ++ text ∧ encodeChars text = bytes := by
  fun_induction decodeFrom index done bytes with
  | case1 index done =>
    cases h
    exact ⟨[], (List.append_nil _).symm, rfl⟩
  | case2 index done a rest first ih => exact exists_of_spelled (.one first) (ih h)
  | case4 index done a _ range b rest second ih =>
    rw [Bool.and_eq_true, decide_eq_true_eq, decide_eq_true_eq] at range
    exact exists_of_spelled (.two range second) (ih h)
  | case9 index done a _ _ range b c rest second third ih =>
    rw [Bool.and_eq_true, decide_eq_true_eq, decide_eq_true_eq] at range
    exact exists_of_spelled (.three range second third) (ih h)
  | case18 index done a _ _ _ range b c d rest second third fourth ih =>
    rw [Bool.and_eq_true, decide_eq_true_eq, decide_eq_true_eq] at range
    exact exists_of_spelled (.four range second third fourth) (ih h)
  | _ => cases h

/-- **Decoding is the inverse of encoding**: bytes are read as a text just when they are what it is encoded as. -/
theorem decodeChars_eq_ok_iff : decodeChars bytes = .ok s ↔ encodeChars s = bytes := by
  constructor
  · intro h
    obtain ⟨text, rfl, written⟩ := exists_of_decodeFrom h
    exact written
  · rintro rfl
    exact decodeFrom_encodeChars s 0 []

end TypedImport.Utf8
