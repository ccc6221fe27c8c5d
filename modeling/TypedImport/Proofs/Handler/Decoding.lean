import TypedImport.Handler.Encoding
import TypedImport.Proofs.Text.Characters
import TypedImport.Proofs.Text.Spelling

/-!
# Bytes as text

What is read of bytes depends on the name of the encoding alone. The names of the UTF-8 family undo encoding, up to one
byte order mark in front (`ReadsUtf8`); those of the Latin-1 family take each byte for a character (`ReadsLatin1`); any
other name reads nothing. Every encoding keeps to its name, and an encoding that was given by a label keeps to the name
that the label says, in any case and with blanks around (`decodes_text`).
-/

namespace TypedImport.Encoding

variable {encoding : Encoding} {url : String} {Named : String → Prop}

/-- **Reading undoes UTF-8.** -/
structure ReadsUtf8 (url : String) (read : Bytes → Except DecodeFault (List Char)) : Prop where
  /-- One mark in front of a text is left out, and what follows is given back, be it another mark. -/
  marked : ∀ s, read (Utf8.encodeChars ('\ufeff' :: s)) = .ok s
  unmarked : ∀ s, s.head? ≠ some '\ufeff' → read (Utf8.encodeChars s) = .ok s
  /-- What no text is encoded as is refused. -/
  refused : ∀ bytes, (∀ s, Utf8.encodeChars s ≠ bytes) → ∃ fault, read bytes = .error (.notUtf8 url fault)

/-- **Reading takes each byte for the character of its number.** -/
structure ReadsLatin1 (read : Bytes → Except DecodeFault (List Char)) : Prop where
  total : ∀ bytes, ∃ s, read bytes = .ok s ∧ s.map Char.toNat = bytes.map UInt8.toNat
  distinct : ∀ bytes other, read bytes = read other → bytes = other

/-- **An encoding reads as its names say.** -/
structure Decodes (url : String) (encoding : Encoding) (Named : String → Prop) : Prop where
  utf8 : ∀ name ∈ utf8Names, Named name → ReadsUtf8 url (encoding.decode url)
  latin1 : ∀ name ∈ latin1Names, Named name → ReadsLatin1 (encoding.decode url)
  other : (∀ name ∈ utf8Names ++ latin1Names, ¬ Named name) →
    ∀ bytes, encoding.decode url bytes = .error (.unsupported encoding.name)

theorem dropMark_of_head {s : List Char} (h : s.head? ≠ some '\ufeff') : dropMark s = s := by
  unfold dropMark
  split
  next => exact absurd rfl h
  next => rfl

theorem readsUtf8_of_name (h : encoding.name ∈ utf8Names) : ReadsUtf8 url (encoding.decode url) := by
  have reads : ∀ s, encoding.decode url (Utf8.encodeChars s) = .ok (dropMark s) := by
    intro s
    rw [decode, if_pos (List.contains_iff_mem.2 h), Utf8.decodeChars_eq_ok_iff.2 rfl]
  refine ⟨fun s => reads _, fun s unmarked => ?_, fun bytes unwritten => ?_⟩
  · rw [reads, dropMark_of_head unmarked]
  · rw [decode, if_pos (List.contains_iff_mem.2 h)]
    cases read : Utf8.decodeChars bytes with
    | ok s => exact absurd (Utf8.decodeChars_eq_ok_iff.1 read) (unwritten s)
    | error fault => exact ⟨fault, rfl⟩

/-- The characters of bytes have the numbers of the bytes. -/
theorem map_toNat_ofNat (bytes : Bytes) :
    (bytes.map fun b => Char.ofNat b.toNat).map Char.toNat = bytes.map UInt8.toNat := by
  rw [List.map_map]
  exact List.map_congr_left fun b _ => Utf8.toNat_ofNat_byte b

theorem not_mem_utf8Names {name : String} (h : name ∈ latin1Names) : name ∉ utf8Names := by
  revert name
  decide

theorem readsLatin1_of_name (h : encoding.name ∈ latin1Names) : ReadsLatin1 (encoding.decode url) := by
  have reads : ∀ bytes, encoding.decode url bytes = .ok (bytes.map fun b => Char.ofNat b.toNat) := by
    intro bytes
    rw [decode, if_neg (mt List.contains_iff_mem.1 (not_mem_utf8Names h)), if_pos (List.contains_iff_mem.2 h)]
  refine ⟨fun bytes => ⟨_, reads bytes, map_toNat_ofNat bytes⟩, fun bytes other same => ?_⟩
  rw [reads, reads] at same
  have numbers := congrArg (List.map Char.toNat) (Except.ok.inj same)
  rw [map_toNat_ofNat, map_toNat_ofNat] at numbers
  exact List.map_injective_iff.2 (fun _ _ => UInt8.toNat_inj.1) numbers

/-- **An encoding keeps to its name**, however it is named. -/
theorem decodes_of_name (h : ∀ name ∈ utf8Names ++ latin1Names, Named name ↔ encoding.name = name) :
    Decodes url encoding Named where
  utf8 name hname named := by
    rw [h name (List.mem_append_left _ hname)] at named
    exact readsUtf8_of_name (named ▸ hname)
  latin1 name hname named := by
    rw [h name (List.mem_append_right _ hname)] at named
    exact readsLatin1_of_name (named ▸ hname)
  other unnamed bytes := by
    have unknown : encoding.name ∉ utf8Names ++ latin1Names := fun known => unnamed _ known ((h _ known).2 rfl)
    rw [List.mem_append, not_or] at unknown
    rw [decode, if_neg (mt List.contains_iff_mem.1 unknown.1), if_neg (mt List.contains_iff_mem.1 unknown.2)]

/-- **Decoding undoes encoding**: every encoding keeps to its name, and one that was given by a label to the name that
the label says. -/
theorem decodes_text (url : String) :
    (∀ encoding : Encoding, Decodes url encoding fun name => encoding.name = name) ∧
      ∀ label, Decodes url (ofLabel label) (Text.Says label) := by
  refine ⟨fun encoding => decodes_of_name fun _ _ => Iff.rfl, fun label => decodes_of_name fun name hname => ?_⟩
  have tight : ∀ name ∈ utf8Names ++ latin1Names, Text.trimChars name.toList = name.toList := by decide
  exact (Text.lower_trim_eq_iff (tight name hname)).symm

/-- A second mark belongs to the text, and half a character to none. -/
example :
    (ofLabel " UTF-8\t").decode "u" [0xef, 0xbb, 0xbf, 0xef, 0xbb, 0xbf, 0x78] = .ok ['\ufeff', 'x'] ∧
      (ofLabel "Blob").decode "u" [0x78, 0xc3] = .error (.notUtf8 "u" (.incomplete 1)) ∧
      (ofLabel "Latin-1").decode "u" [0x68, 0xe9] = .ok ['h', 'é'] := by
  decide

end TypedImport.Encoding
