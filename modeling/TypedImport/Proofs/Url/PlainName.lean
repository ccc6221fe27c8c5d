import TypedImport.Proofs.Url.Names

/-!
# Names that are read as they are

A relative text comes whole into the path only if all of it can come into names (`kept`). It is one segment then, behind
those of the base (`read_of_kept`). The segment stands for the text itself unless the text is a drive, which begins a
path of its own (`components_of_drive`), or holds an escape, which is decoded (`weight_segment_le`). A name is plain if
it is neither (`PlainName`).
-/

namespace TypedImport

open Percent (decode)

namespace Url

variable {u url : Url} {text : String} {s : List Char} {before : List String}

/-! ## Dots -/

theorem eq_toLower_fin : ∀ n : Fin 128,
    Char.ofNat n = (Char.ofNat n).toLower ∨ Char.ofNat n = (Char.ofNat n).toLower.toUpper := by
  decide

/-- A character is its lowercase, or the uppercase of that. -/
theorem eq_of_toLower {c d : Char} (h : c.toLower = d) : c = d ∨ c = d.toUpper := by
  subst h
  by_cases upper : c.val ≥ 'A'.val ∧ c.val ≤ 'Z'.val
  · have ascii : c.toNat < 128 := Nat.lt_of_le_of_lt upper.2 (by decide)
    have found := eq_toLower_fin ⟨c.toNat, ascii⟩
    rwa [Char.ofNat_toNat] at found
  · exact .inl (show c.toLower = c from dif_neg upper).symm

/-- A dot that is spelled by its number is an escape. -/
theorem escaped_of_spelledDot (front back : List Char)
    (h : s.map Char.toLower = front ++ ['%', '2', 'e'] ++ back) : Percent.Escaped (Utf8.encodeChars s) := by
  obtain ⟨start, behind, rfl, hstart, -⟩ := List.map_eq_append_iff.1 h
  obtain ⟨before, spelled, rfl, -, hspelled⟩ := List.map_eq_append_iff.1 hstart
  obtain ⟨percent, digits, rfl, hpercent, hdigits⟩ := List.map_eq_cons_iff.1 hspelled
  obtain ⟨two, last, rfl, htwo, hlast⟩ := List.map_eq_cons_iff.1 hdigits
  obtain ⟨e, none, rfl, he, hnone⟩ := List.map_eq_cons_iff.1 hlast
  obtain rfl := List.map_eq_nil_iff.1 hnone
  obtain rfl : percent = '%' := (eq_of_toLower hpercent).elim id id
  obtain rfl : two = '2' := (eq_of_toLower htwo).elim id id
  rw [Utf8.encodeChars_append, Utf8.encodeChars_append, List.append_assoc]
  rcases eq_of_toLower he with rfl | rfl
  · exact ⟨Utf8.encodeChars before, 0x32 :: 0x65 :: Utf8.encodeChars behind, rfl, _, _, _, rfl, by decide, by decide⟩
  · exact ⟨Utf8.encodeChars before, 0x32 :: 0x45 :: Utf8.encodeChars behind, rfl, _, _, _, rfl, by decide, by decide⟩

/-- **A text without an escape is a dot or two only if it is written so.** -/
theorem not_isDot_of_not_escaped (escape : ¬ Percent.Escaped (Utf8.encodeChars s)) (h : s ≠ ['.']) :
    UrlPath.isDot s = false := by
  rw [UrlPath.isDot, Bool.or_eq_false_iff, decide_eq_false_iff_not, decide_eq_false_iff_not]
  exact ⟨h, fun spelled => escape (escaped_of_spelledDot [] [] spelled)⟩

theorem not_isDoubleDot_of_not_escaped (escape : ¬ Percent.Escaped (Utf8.encodeChars s)) (h : s ≠ ['.', '.']) :
    UrlPath.isDoubleDot s = false := by
  have written : s.map Char.toLower ≠ ['.', '.'] := by
    intro dots
    obtain ⟨first, others, rfl, hfirst, hothers⟩ := List.map_eq_cons_iff.1 dots
    obtain ⟨second, none, rfl, hsecond, hnone⟩ := List.map_eq_cons_iff.1 hothers
    obtain rfl := List.map_eq_nil_iff.1 hnone
    obtain rfl : first = '.' := (eq_of_toLower hfirst).elim id id
    obtain rfl : second = '.' := (eq_of_toLower hsecond).elim id id
    exact h rfl
  simp only [UrlPath.isDoubleDot, Bool.or_eq_false_iff, decide_eq_false_iff_not]
  exact ⟨⟨⟨written, fun spelled => escape (escaped_of_spelledDot ['.'] [] spelled)⟩,
    fun spelled => escape (escaped_of_spelledDot [] ['.'] spelled)⟩,
    fun spelled => escape (escaped_of_spelledDot [] ['%', '2', 'e'] spelled)⟩

/-! ## One segment -/

theorem startsWithDrive_of_unmarked (unmarked : ∀ c ∈ s, isMark c = false) :
    UrlPath.startsWithDrive s = UrlPath.isDrive s := by
  match s with
  | [] => rfl
  | [a] => rfl
  | [a, b] => exact Bool.and_true _
  | a :: b :: c :: rest =>
    have mark := unmarked c (by simp)
    simp only [isMark, isSlash, isTailMark, Bool.or_eq_false_iff, decide_eq_false_iff_not] at mark
    simp [UrlPath.startsWithDrive, UrlPath.isDrive, mark]

/-- **A text that can come whole into names** begins a path with a drive, or goes on from the base. -/
theorem read_of_kept (whole : kept text.toList = text.toList) (present : text.toList ≠ [])
    (scheme : u.scheme = "file") (rooted : u.isRootless = false) :
    read (some u) text = .ok (if UrlPath.isDrive text.toList then goOn bareFile [] text.toList
      else goOn u (UrlPath.parent .file (segmentsOf u)) text.toList) := by
  obtain ⟨clean, noScheme, unmarked⟩ := kept_eq_self_iff.1 whole
  rw [read, cleaned_eq_self_iff.2 clean, noScheme]
  cases chars : text.toList with
  | nil => exact absurd chars present
  | cons c rest =>
    rw [chars] at unmarked
    have mark := unmarked c List.mem_cons_self
    simp only [isMark, isTailMark, Bool.or_eq_false_iff, decide_eq_false_iff_not] at mark
    obtain ⟨slash, query, fragment⟩ := mark
    have file : readFile (some u) (c :: rest) = .ok (if UrlPath.isDrive (c :: rest) then goOn bareFile [] (c :: rest)
        else goOn u (UrlPath.parent .file (segmentsOf u)) (c :: rest)) := by
      simp only [readFile, slash, query, fragment, startsWithDrive_of_unmarked unmarked, Bool.false_eq_true, if_false]
      split <;> rfl
    simp only
    split
    next heq => exact absurd (List.cons.inj heq).1 fragment
    next => rw [rooted, if_pos scheme, file]; rfl

theorem cut_of_unmarked (unmarked : ∀ c ∈ s, isMark c = false) : UrlPath.cut .file s = [s] := by
  have other : ∀ c ∈ s, c ≠ '/' ∧ c ≠ '\\' := by
    intro c member
    have mark := unmarked c member
    simp only [isMark, isSlash, Bool.or_eq_false_iff, decide_eq_false_iff_not] at mark
    exact mark.1
  have same : (s.map fun c => if c = '\\' then '/' else c) = s :=
    (List.map_congr_left fun c member => if_neg (other c member).2).trans (List.map_id' s)
  rw [UrlPath.cut, show SchemeKind.file.isSpecial = true from rfl, if_pos rfl, same, Text.splitChars_eq_splitOn,
    List.splitOn_eq_singleton fun slash => (other '/' slash).1 rfl]

theorem authority_goOn (u : Url) (before : List String) (s : List Char) :
    (goOn u before s).authority = u.authority := rfl

/-- **A text without marks is one segment.** -/
theorem segmentsOf_goOn (scheme : u.scheme = "file") (unmarked : ∀ c ∈ s, isMark c = false) :
    segmentsOf (goOn u before s) = UrlPath.dropEmpty (UrlPath.extend .file before [s]) := by
  have front : (s.takeWhile fun c => !isTailMark c) = s := by
    rw [List.takeWhile_eq_self_iff]
    intro c member
    have mark := unmarked c member
    rw [isMark, Bool.or_eq_false_iff] at mark
    rw [mark.2]
    rfl
  calc segmentsOf (goOn u before s)
      = UrlPath.read (.of u.scheme) before (s.takeWhile fun c => !isTailMark c) := rfl
    _ = UrlPath.read .file before s := by rw [front, SchemeKind.of_eq_file_iff.2 scheme]
    _ = UrlPath.dropEmpty (UrlPath.extend .file before [s]) := by
        rw [UrlPath.read, if_pos rfl, cut_of_unmarked unmarked]

theorem stored_of_not_drive (kind : SchemeKind) (first : Bool) (h : UrlPath.isDrive s = false) :
    UrlPath.stored kind first s = Percent.encode Percent.path s := by
  rw [UrlPath.stored.eq_def]
  split
  next => rw [h, Bool.and_false]; rfl
  next => rfl

/-- **One segment that is no drive is decoded.** -/
theorem weight_segment_le (before : List String) (drive : UrlPath.isDrive s = false) :
    weight (UrlPath.dropEmpty (UrlPath.extend .file before [s])) ≤
      weight before + (decode (Utf8.encodeChars s)).length := by
  have last := weight_extend_singleton_le .file before s
  rw [stored_of_not_drive _ _ drive, Percent.decode_encode_path] at last
  exact Nat.le_trans (weight_dropEmpty_le _) last

theorem dropEmpty_of_ne {segments : List String} (present : segments ≠ []) (full : ∀ segment ∈ segments, segment ≠ "") :
    UrlPath.dropEmpty segments = segments := by
  cases segments with
  | nil => exact absurd rfl present
  | cons first rest =>
    have kept : (first :: rest).dropWhile (· = "") = first :: rest :=
      List.dropWhile_cons_of_neg (by simpa using full first List.mem_cons_self)
    rw [UrlPath.dropEmpty, kept]

theorem segment_of_drive {letter : Char} (alpha : letter.isAlpha = true) :
    UrlPath.dropEmpty (UrlPath.extend .file [] [[letter, '|']]) = [String.ofList [letter, ':']] := by
  have dots : UrlPath.isDoubleDot [letter, '|'] = false := by
    simp [UrlPath.isDoubleDot, show Char.toLower '|' = '|' from rfl]
  have dot : UrlPath.isDot [letter, '|'] = false := by simp [UrlPath.isDot]
  have drive : UrlPath.stored .file true [letter, '|'] = String.ofList [letter, ':'] := by
    simp [UrlPath.stored, UrlPath.isDrive, alpha]
  rw [UrlPath.extend, dots, dot]
  simp only [Bool.false_eq_true, if_false, List.isEmpty_nil, List.nil_append, drive]
  refine dropEmpty_of_ne (List.cons_ne_nil _ _) fun segment member => ?_
  rw [List.mem_singleton.1 member]
  exact fun empty => List.cons_ne_nil _ _ (String.ofList_eq_empty_iff.1 empty)

theorem ascii_drive {letter : Char} (alpha : letter.isAlpha = true) : ∀ c ∈ [letter, ':'], c.toNat < 128 := by
  intro c member
  rcases List.mem_cons.1 member with rfl | colon
  · exact ascii_of_isSchemeChar (isSchemeChar_of_isAlpha alpha)
  · rw [List.mem_singleton.1 colon]
    decide

theorem slash_not_mem_drive {letter : Char} (alpha : letter.isAlpha = true) :
    (0x2f : UInt8) ∉ Utf8.encodeChars [letter, ':'] := by
  rw [show (0x2f : UInt8) = UInt8.ofNat '/'.toNat from rfl, Utf8.mem_encodeChars_iff (by decide)]
  intro member
  rcases List.mem_cons.1 member with rfl | colon
  · exact absurd alpha (by decide)
  · exact absurd (List.mem_singleton.1 colon) (by decide)

/-- **A drive is written with a colon**, and is all that there is of the path. -/
theorem components_of_drive {file : Bytes} (whole : kept s = s) (drive : UrlPath.isDrive s = true)
    (h : Disk.path? (goOn bareFile [] s) = some file) :
    ∃ letter, s = [letter, '|'] ∧ byteComponents file = [Utf8.encodeChars [letter, ':']] := by
  obtain ⟨-, noScheme, unmarked⟩ := kept_eq_self_iff.1 whole
  match s, drive with
  | [letter, second], drive =>
    simp only [UrlPath.isDrive, Bool.and_eq_true, Bool.or_eq_true, decide_eq_true_iff] at drive
    obtain ⟨alpha, rfl | rfl⟩ := drive
    · rw [cutScheme?_letter alpha] at noScheme
      cases noScheme
    · refine ⟨letter, rfl, ?_⟩
      -- two bytes are too few for an escape
      have decoded : decode (Utf8.encode (String.ofList [letter, ':'])) = Utf8.encodeChars [letter, ':'] := by
        rw [Utf8.encode, String.toList_ofList, Utf8.encodeChars_of_ascii (ascii_drive alpha)]
        rfl
      rw [(exists_of_path? h).2, byteComponents_close, segmentsOf_goOn rfl unmarked, segment_of_drive alpha,
        decoded_singleton, decoded, ← rooted_singleton]
      refine byteComponents_rooted fun name member => ?_
      rw [List.mem_singleton.1 member]
      exact ⟨by simp [isName_encodeChars], slash_not_mem_drive alpha⟩

theorem segments?_of_ne (h : segmentsOf u ≠ []) : u.segments? = some (segmentsOf u) := by
  rw [segmentsOf.eq_def] at h ⊢
  rw [segments?]
  split at h
  next list path =>
    cases list with
    | nil => exact absurd rfl h
    | cons first rest => rw [path]
  next => exact absurd rfl h

/-! ## Plain names -/

/-- **Whether a name is read as it is**: nothing is dropped from it, and it holds no scheme, no mark, no drive and no
escape. -/
structure PlainName (name : List Char) : Prop where
  clean : Clean name
  noScheme : cutScheme? name = none
  unmarked : ∀ c ∈ name, isMark c = false
  noDrive : UrlPath.isDrive name = false
  unescaped : ¬ Percent.Escaped (Utf8.encodeChars name)

theorem plainName_iff :
    PlainName s ↔ kept s = s ∧ UrlPath.isDrive s = false ∧ ¬ Percent.Escaped (Utf8.encodeChars s) := by
  rw [kept_eq_self_iff]
  constructor
  · rintro ⟨clean, noScheme, unmarked, noDrive, unescaped⟩
    exact ⟨⟨clean, noScheme, unmarked⟩, noDrive, unescaped⟩
  · rintro ⟨⟨clean, noScheme, unmarked⟩, noDrive, unescaped⟩
    exact ⟨clean, noScheme, unmarked, noDrive, unescaped⟩

instance (name : List Char) : Decidable (PlainName name) :=
  decidable_of_iff _ plainName_iff.symm

/-- **A plain name is the segment behind those before it**, and decoding gives the name back. -/
theorem segment_of_plain (plain : PlainName s) (present : s ≠ []) (dot : s ≠ ['.']) (dots : s ≠ ['.', '.'])
    (full : ∀ segment ∈ before, segment ≠ "") :
    UrlPath.dropEmpty (UrlPath.extend .file before [s]) = before ++ [Percent.encode Percent.path s] ∧
      decode (Utf8.encode (Percent.encode Percent.path s)) = Utf8.encodeChars s := by
  have decoded : decode (Utf8.encode (Percent.encode Percent.path s)) = Utf8.encodeChars s := by
    rw [Percent.decode_encode_path, Percent.decode_of_not_escaped plain.unescaped]
  have written : Percent.encode Percent.path s ≠ "" := by
    intro empty
    rw [empty] at decoded
    exact present (Utf8.encodeChars_eq_nil_iff.1 decoded.symm)
  refine ⟨?_, decoded⟩
  rw [UrlPath.extend, not_isDot_of_not_escaped plain.unescaped dot,
    not_isDoubleDot_of_not_escaped plain.unescaped dots, stored_of_not_drive _ _ plain.noDrive]
  refine dropEmpty_of_ne (List.append_ne_nil_of_right_ne_nil _ (List.cons_ne_nil _ _)) fun segment member => ?_
  rcases List.mem_append.1 member with inside | last
  · exact full segment inside
  · exact List.mem_singleton.1 last ▸ written

end Url

end TypedImport
