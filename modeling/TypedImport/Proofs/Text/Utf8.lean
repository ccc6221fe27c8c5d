import Mathlib.Data.List.Flatten
import TypedImport.Proofs.Text.Pieces
import TypedImport.Text.Utf8

/-!
# UTF-8 and ASCII

A character of ASCII is one byte, its own number, and every byte of any other character is above ASCII. So an ASCII
character stands in a text just where its byte stands in the encoding: a text may be cut at an ASCII separator before
it is encoded or after (`splitOn_encodeChars`).

**Encoding is one to one** (`encodeChars_inj`), and no shorter than the text.
-/

namespace TypedImport.Utf8

variable {c : Char} {s t : List Char}

theorem encodeChars_nil : encodeChars [] = [] := rfl

theorem encodeChars_cons (c : Char) (s : List Char) :
    encodeChars (c :: s) = String.utf8EncodeChar c ++ encodeChars s := rfl

theorem encodeChars_append (s t : List Char) : encodeChars (s ++ t) = encodeChars s ++ encodeChars t :=
  List.flatMap_append

theorem utf8EncodeChar_of_ascii (h : c.toNat < 128) : String.utf8EncodeChar c = [UInt8.ofNat c.toNat] := by
  have low : c.val.toNat ≤ 127 := Nat.le_of_lt_succ h
  rw [String.utf8EncodeChar.eq_1, if_pos low]
  rfl

/-- Every byte of a character above ASCII is above ASCII. -/
theorem high_of_mem_utf8EncodeChar (high : 128 ≤ c.toNat) {b : UInt8} (h : b ∈ String.utf8EncodeChar c) :
    128 ≤ b.toNat := by
  have above : ¬ c.val.toNat ≤ 127 := Nat.not_le.2 high
  -- a byte is some bits of the character on top of a mark
  have marked : ∀ n size mark : Nat, 0 < size → 128 ≤ mark → mark + size ≤ 256 →
      128 ≤ (UInt8.ofNat (n % size + mark)).toNat := by
    intro n size mark pos hmark fits
    have bits := Nat.mod_lt n pos
    rw [UInt8.toNat_ofNat', Nat.mod_eq_of_lt (by omega)]
    omega
  rw [String.utf8EncodeChar.eq_1, if_neg above] at h
  split at h
  · simp only [List.mem_cons, List.not_mem_nil, or_false] at h
    rcases h with rfl | rfl <;> exact marked _ _ _ (by decide) (by decide) (by decide)
  · split at h
    · simp only [List.mem_cons, List.not_mem_nil, or_false] at h
      rcases h with rfl | rfl | rfl <;> exact marked _ _ _ (by decide) (by decide) (by decide)
    · simp only [List.mem_cons, List.not_mem_nil, or_false] at h
      rcases h with rfl | rfl | rfl | rfl <;> exact marked _ _ _ (by decide) (by decide) (by decide)

theorem toNat_ofNat_ascii (h : c.toNat < 128) : (UInt8.ofNat c.toNat).toNat = c.toNat := by
  rw [UInt8.toNat_ofNat', Nat.mod_eq_of_lt (by omega)]

/-- A number that is no surrogate and not too large is that of its character. -/
theorem toNat_ofNat_of_isValid {n : Nat} (h : n.isValidChar) : (Char.ofNat n).toNat = n := by
  unfold Char.ofNat
  rw [dif_pos h]
  rfl

theorem toNat_ofNat_byte (b : UInt8) : (Char.ofNat b.toNat).toNat = b.toNat :=
  toNat_ofNat_of_isValid (.inl (Nat.lt_trans b.toNat_lt (by decide)))

/-- **An ASCII byte is in the encoding of its own character only.** -/
theorem mem_utf8EncodeChar_iff {a : Char} (ascii : a.toNat < 128) :
    UInt8.ofNat a.toNat ∈ String.utf8EncodeChar c ↔ c = a := by
  rcases Nat.lt_or_ge c.toNat 128 with low | high
  · rw [utf8EncodeChar_of_ascii low, List.mem_singleton, ← UInt8.toNat_inj, toNat_ofNat_ascii ascii,
      toNat_ofNat_ascii low, Char.toNat_inj, eq_comm]
  · refine ⟨fun h => ?_, fun h => ?_⟩
    · have above := high_of_mem_utf8EncodeChar high h
      rw [toNat_ofNat_ascii ascii] at above
      omega
    · rw [h] at high
      omega

theorem mem_encodeChars_iff {a : Char} (ascii : a.toNat < 128) : UInt8.ofNat a.toNat ∈ encodeChars s ↔ a ∈ s := by
  simp only [encodeChars, List.mem_flatMap, mem_utf8EncodeChar_iff ascii, exists_eq_right]

/-- A text of ASCII is encoded as its numbers. -/
theorem encodeChars_of_ascii (ascii : ∀ c ∈ s, c.toNat < 128) :
    encodeChars s = s.map fun c => UInt8.ofNat c.toNat := by
  induction s with
  | nil => rfl
  | cons c rest ih =>
    obtain ⟨low, others⟩ := List.forall_mem_cons.1 ascii
    rw [encodeChars_cons, utf8EncodeChar_of_ascii low, ih others]
    rfl

/-- **Texts of one encoding are one text.** -/
theorem encodeChars_inj : encodeChars s = encodeChars t ↔ s = t := by
  refine ⟨fun h => ?_, congrArg encodeChars⟩
  have bytes : s.utf8Encode = t.utf8Encode := congrArg List.toByteArray h
  have arrays : some s.toArray = some t.toArray := by
    rw [← List.utf8Decode?_utf8Encode, ← List.utf8Decode?_utf8Encode, bytes]
  exact List.toArray_inj (Option.some.inj arrays)

theorem encodeChars_eq_nil_iff : encodeChars s = [] ↔ s = [] := by
  rw [← encodeChars_nil, encodeChars_inj]

/-! ## Length -/

theorem length_encodeChars_le (h : s.Sublist t) : (encodeChars s).length ≤ (encodeChars t).length :=
  (h.flatMap _).length_le

/-- Texts that are left of a text have fewer bytes unless all of it is left. -/
theorem eq_of_length_encodeChars_le (h : s.Sublist t) (le : (encodeChars t).length ≤ (encodeChars s).length) : s = t :=
  encodeChars_inj.1 ((h.flatMap _).eq_of_length_le le)

/-! ## Cutting at a character of ASCII -/

/-- **A text may be cut before it is encoded or after.** -/
theorem splitOn_encodeChars {a : Char} (ascii : a.toNat < 128) (s : List Char) :
    (encodeChars s).splitOn (UInt8.ofNat a.toNat) = (s.splitOn a).map encodeChars := by
  induction s with
  | nil => rfl
  | cons c rest ih =>
    rw [encodeChars_cons, List.splitOn_cons_eq_if_modifyHead]
    by_cases same : c = a
    · subst same
      rw [utf8EncodeChar_of_ascii ascii, List.singleton_append, List.splitOn_cons_eq_if_modifyHead,
        if_pos BEq.rfl, if_pos BEq.rfl, ih]
      rfl
    · rw [Text.splitOn_append_of_not_mem (mt (mem_utf8EncodeChar_iff ascii).1 same), ih, if_neg (mt beq_iff_eq.1 same)]
      cases cut : rest.splitOn a with
      | nil => exact absurd cut (List.splitOn_ne_nil a rest)
      | cons piece pieces => rfl

end TypedImport.Utf8
