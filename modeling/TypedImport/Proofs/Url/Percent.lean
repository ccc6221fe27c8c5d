import TypedImport.Proofs.Text.Utf8
import TypedImport.Url.Percent

/-!
# Percent encoding, undone

What decoding makes of encoded bytes depends on the percent sign alone. Where it is encoded too, as in the segments of
paths, decoding gives the bytes back (`decode_encode_of_percent`). Where it is not, as in a path that is given as text,
decoding undoes what the text had encoded by itself, and nothing else of it (`decode_encode_of_digits`).

**Escapes.** Bytes stay as they are under decoding just if no percent sign among them has two digits behind it
(`Escaped`). Any that do get shorter.
-/

namespace TypedImport.Percent

variable {set : EncodeSet} {a b c : UInt8} {bytes rest : Bytes}

/-! ## Decoding, byte by byte -/

/-- Whether bytes begin with two digits. -/
def StartsHex (bytes : Bytes) : Prop :=
  ∃ b c tail, bytes = b :: c :: tail ∧ (byteValue? b).isSome ∧ (byteValue? c).isSome

theorem decode_of_ne (h : a ≠ 0x25) (rest : Bytes) : decode (a :: rest) = a :: decode rest := by
  rcases rest with _ | ⟨b, _ | ⟨c, tail⟩⟩
  · rfl
  · rfl
  · rw [decode, if_neg h]

theorem decode_escape {high low : Nat} (hb : byteValue? b = some high) (hc : byteValue? c = some low)
    (tail : Bytes) : decode (0x25 :: b :: c :: tail) = UInt8.ofNat (high * 16 + low) :: decode tail := by
  rw [decode, if_pos rfl, hb, hc]

theorem decode_percent (h : ¬ StartsHex rest) : decode (0x25 :: rest) = 0x25 :: decode rest := by
  rcases rest with _ | ⟨b, _ | ⟨c, tail⟩⟩
  · rfl
  · rfl
  · rw [decode, if_pos rfl]
    cases hb : byteValue? b with
    | none => rfl
    | some high =>
      cases hc : byteValue? c with
      | none => rfl
      | some low => exact absurd ⟨b, c, tail, rfl, by rw [hb]; rfl, by rw [hc]; rfl⟩ h

theorem ne_percent_of_digit (h : (byteValue? b).isSome) : b ≠ 0x25 := by
  rintro rfl
  exact absurd h (by decide)

/-! ## What decoding changes -/

/-- Whether a percent sign among bytes has two digits behind it. -/
def Escaped (bytes : Bytes) : Prop :=
  ∃ before rest, bytes = before ++ 0x25 :: rest ∧ StartsHex rest

theorem Escaped.cons (h : Escaped rest) (a : UInt8) : Escaped (a :: rest) := by
  obtain ⟨before, behind, rfl, digits⟩ := h
  exact ⟨a :: before, behind, rfl, digits⟩

/-- **Bytes without an escape stay as they are.** -/
theorem decode_of_not_escaped (h : ¬ Escaped bytes) : decode bytes = bytes := by
  induction bytes with
  | nil => rfl
  | cons a rest ih =>
    have others := ih fun inside => h (inside.cons a)
    by_cases percent : a = 0x25
    · subst percent
      rw [decode_percent fun digits => h ⟨[], rest, rfl, digits⟩, others]
    · rw [decode_of_ne percent, others]

/-- A byte in front adds at most itself. -/
theorem length_decode_cons_le (a : UInt8) (rest : Bytes) :
    (decode (a :: rest)).length ≤ (decode rest).length + 1 := by
  by_cases percent : a = 0x25
  · subst percent
    by_cases digits : StartsHex rest
    · obtain ⟨b, c, tail, rfl, hb, hc⟩ := digits
      rw [decode_escape (Option.some_get hb).symm (Option.some_get hc).symm,
        decode_of_ne (ne_percent_of_digit hb), decode_of_ne (ne_percent_of_digit hc)]
      simp only [List.length_cons]
      omega
    · exact Nat.le_of_eq (congrArg List.length (decode_percent digits))
  · exact Nat.le_of_eq (congrArg List.length (decode_of_ne percent rest))

theorem length_decode_append_le (before rest : Bytes) :
    (decode (before ++ rest)).length ≤ before.length + (decode rest).length := by
  induction before with
  | nil => exact Nat.le_of_eq (Nat.zero_add _).symm
  | cons a before ih =>
    have step := length_decode_cons_le a (before ++ rest)
    rw [List.cons_append, List.length_cons]
    omega

theorem length_decode_le (bytes : Bytes) : (decode bytes).length ≤ bytes.length := by
  simpa [decode] using length_decode_append_le bytes []

/-- **Bytes with an escape get shorter.** -/
theorem length_decode_lt (h : Escaped bytes) : (decode bytes).length < bytes.length := by
  obtain ⟨before, rest, rfl, b, c, tail, rfl, hb, hc⟩ := h
  have front := length_decode_append_le before (0x25 :: b :: c :: tail)
  have behind := length_decode_le tail
  rw [decode_escape (Option.some_get hb).symm (Option.some_get hc).symm, List.length_cons] at front
  simp only [List.length_append, List.length_cons]
  omega

theorem decode_eq_self_iff : decode bytes = bytes ↔ ¬ Escaped bytes :=
  ⟨fun same escape => absurd (congrArg List.length same) (Nat.ne_of_lt (length_decode_lt escape)),
    decode_of_not_escaped⟩

instance (bytes : Bytes) : Decidable (Escaped bytes) :=
  decidable_of_iff (¬ decode bytes = bytes) (by rw [decode_eq_self_iff, Classical.not_not])

/-! ## Encoded bytes -/

/-- Whether a byte is left as it is. -/
def Kept (set : EncodeSet) (b : UInt8) : Prop :=
  b < 0x80 ∧ set b = false

/-- The bytes of an encoded byte. -/
def written (set : EncodeSet) (b : UInt8) : Bytes :=
  (encodeByte set b).map fun c => UInt8.ofNat c.toNat

theorem encodeByte_of_kept (h : Kept set b) : encodeByte set b = [Char.ofNat b.toNat] := by
  have below : decide (0x80 ≤ b) = false := decide_eq_false (UInt8.not_le.2 h.1)
  rw [encodeByte, below, h.2]
  rfl

theorem encodeByte_of_not_kept (h : ¬ Kept set b) :
    encodeByte set b = ['%', upperDigit (b.toNat / 16), upperDigit (b.toNat % 16)] := by
  refine if_pos ?_
  by_cases low : b < 0x80
  · rw [Bool.of_not_eq_false fun kept => h ⟨low, kept⟩, Bool.or_true]
  · rw [decide_eq_true (UInt8.not_lt.1 low), Bool.true_or]

theorem upperDigit_ascii : ∀ n : Fin 16, (upperDigit n).toNat < 128 := by
  decide

/-- A digit is read as what it was written for. -/
theorem byteValue?_upperDigit : ∀ n : Fin 16, byteValue? (UInt8.ofNat (upperDigit n).toNat) = some n.val := by
  decide

/-- An encoded byte is ASCII. -/
theorem ascii_of_mem_encodeByte {c : Char} (h : c ∈ encodeByte set b) : c.toNat < 128 := by
  have byte : b.toNat < 256 := b.toNat_lt
  by_cases kept : Kept set b
  · rw [encodeByte_of_kept kept, List.mem_singleton] at h
    rw [h, Utf8.toNat_ofNat_byte]
    exact kept.1
  · rw [encodeByte_of_not_kept kept] at h
    simp only [List.mem_cons, List.not_mem_nil, or_false] at h
    rcases h with rfl | rfl | rfl
    · decide
    · exact upperDigit_ascii ⟨b.toNat / 16, by omega⟩
    · exact upperDigit_ascii ⟨b.toNat % 16, by omega⟩

theorem encode_encodeBytes (set : EncodeSet) (bytes : Bytes) :
    Utf8.encode (encodeBytes set bytes) = bytes.flatMap (written set) := by
  rw [Utf8.encode, encodeBytes, String.toList_ofList, Utf8.encodeChars_of_ascii, List.map_flatMap]
  · rfl
  · intro c h
    obtain ⟨b, -, inside⟩ := List.mem_flatMap.1 h
    exact ascii_of_mem_encodeByte inside

theorem written_of_kept (h : Kept set b) : written set b = [b] := by
  rw [written, encodeByte_of_kept h, List.map_singleton, Utf8.toNat_ofNat_byte, UInt8.ofNat_toNat]

/-- An escape is decoded to the byte that it was written for. -/
theorem decode_written_append (h : ¬ Kept set b) (rest : Bytes) :
    decode (written set b ++ rest) = b :: decode rest := by
  have byte : b.toNat < 256 := b.toNat_lt
  have high := byteValue?_upperDigit ⟨b.toNat / 16, by omega⟩
  have low := byteValue?_upperDigit ⟨b.toNat % 16, by omega⟩
  have whole : UInt8.ofNat (b.toNat / 16 * 16 + b.toNat % 16) = b := by
    rw [Nat.div_add_mod', UInt8.ofNat_toNat]
  rw [written, encodeByte_of_not_kept h]
  exact (decode_escape high low rest).trans (by rw [whole])

/-- **Encoding is undone by decoding** where the percent sign is encoded too. -/
theorem decode_encode_of_percent (percent : set 0x25 = true) (bytes : Bytes) :
    decode (Utf8.encode (encodeBytes set bytes)) = bytes := by
  rw [encode_encodeBytes]
  induction bytes with
  | nil => rfl
  | cons b rest ih =>
    rw [List.flatMap_cons]
    by_cases kept : Kept set b
    · have other : b ≠ 0x25 := by
        rintro rfl
        exact Bool.noConfusion (percent.symm.trans kept.2)
      rw [written_of_kept kept, List.singleton_append, decode_of_ne other, ih]
    · rw [decode_written_append kept, ih]

/-- Escapes are there after encoding just if they were there before: what is encoded begins with no digit. -/
theorem startsHex_of_encoded (h : StartsHex (bytes.flatMap (written set))) : StartsHex bytes := by
  -- a digit in front is a byte that was kept
  have front : ∀ {bytes b tail}, bytes.flatMap (written set) = b :: tail → (byteValue? b).isSome →
      ∃ rest, bytes = b :: rest ∧ rest.flatMap (written set) = tail := by
    intro bytes b tail heq hb
    cases bytes with
    | nil => exact absurd heq.symm (List.cons_ne_nil b tail)
    | cons a rest =>
      rw [List.flatMap_cons] at heq
      by_cases kept : Kept set a
      · rw [written_of_kept kept, List.singleton_append, List.cons.injEq] at heq
        exact ⟨rest, by rw [heq.1], heq.2⟩
      · rw [written, encodeByte_of_not_kept kept] at heq
        exact absurd (List.cons.inj heq).1.symm (ne_percent_of_digit hb)
  obtain ⟨b, c, tail, heq, hb, hc⟩ := h
  obtain ⟨rest, rfl, hrest⟩ := front heq hb
  obtain ⟨last, rfl, -⟩ := front hrest hc
  exact ⟨b, c, last, rfl, hb, hc⟩

/-- **Encoding changes nothing for decoding** where the percent sign and the digits are kept. An escape is passed in one
step, any other byte by itself. -/
theorem decode_encode_of_digits (percent : set 0x25 = false)
    (digits : ∀ b, (byteValue? b).isSome → Kept set b) :
    ∀ bytes : Bytes, decode (Utf8.encode (encodeBytes set bytes)) = decode bytes
  | [] => by rw [encode_encodeBytes]; rfl
  | a :: rest => by
    have ih := decode_encode_of_digits percent digits rest
    rw [encode_encodeBytes] at ih ⊢
    rw [List.flatMap_cons]
    by_cases kept : Kept set a
    · rw [written_of_kept kept, List.singleton_append]
      by_cases sign : a = 0x25
      · subst sign
        by_cases behind : StartsHex rest
        · obtain ⟨b, c, tail, rfl, hb, hc⟩ := behind
          have last := decode_encode_of_digits percent digits tail
          rw [encode_encodeBytes] at last
          rw [List.flatMap_cons, List.flatMap_cons, written_of_kept (digits b hb), written_of_kept (digits c hc),
            List.singleton_append, List.singleton_append,
            decode_escape (Option.some_get hb).symm (Option.some_get hc).symm,
            decode_escape (Option.some_get hb).symm (Option.some_get hc).symm, last]
        · rw [decode_percent behind, decode_percent (mt startsHex_of_encoded behind), ih]
      · rw [decode_of_ne sign, decode_of_ne sign, ih]
    · have other : a ≠ 0x25 := by
        rintro rfl
        exact kept ⟨by decide, percent⟩
      rw [decode_written_append kept, decode_of_ne other, ih]

/-! ## The sets of paths -/

/-- No digit is encoded in a path. -/
theorem kept_of_digit_fin :
    ∀ n : Fin 256, (byteValue? (UInt8.ofNat n)).isSome → UInt8.ofNat n < 0x80 ∧ path (UInt8.ofNat n) = false := by
  decide +kernel

theorem decode_encode_path (s : List Char) :
    decode (Utf8.encode (encode path s)) = decode (Utf8.encodeChars s) := by
  refine decode_encode_of_digits (by decide) (fun b digit => ?_) _
  have kept := kept_of_digit_fin ⟨b.toNat, b.toNat_lt⟩
  rw [UInt8.ofNat_toNat] at kept
  exact kept digit

theorem decode_encode_segment (s : List Char) : decode (Utf8.encode (encode segment s)) = Utf8.encodeChars s :=
  decode_encode_of_percent (by decide) _

theorem upperDigit_ne_slash : ∀ n : Fin 16, upperDigit n ≠ '/' := by
  decide

/-- **No slash stands in an encoded name.** -/
theorem slash_not_mem_encode_segment (s : List Char) : '/' ∉ (encode segment s).toList := by
  rw [encode, encodeBytes, String.toList_ofList]
  intro h
  obtain ⟨b, -, inside⟩ := List.mem_flatMap.1 h
  have byte : b.toNat < 256 := b.toNat_lt
  by_cases kept : Kept segment b
  · rw [encodeByte_of_kept kept, List.mem_singleton] at inside
    have number : b.toNat = '/'.toNat := by rw [inside, Utf8.toNat_ofNat_byte]
    rw [show b = 0x2f from UInt8.toNat_inj.1 number] at kept
    exact absurd kept.2 (by decide)
  · rw [encodeByte_of_not_kept kept] at inside
    simp only [List.mem_cons, List.not_mem_nil, or_false] at inside
    rcases inside with sign | high | low
    · exact absurd sign (by decide)
    · exact upperDigit_ne_slash ⟨b.toNat / 16, by omega⟩ high.symm
    · exact upperDigit_ne_slash ⟨b.toNat % 16, by omega⟩ low.symm

end TypedImport.Percent
