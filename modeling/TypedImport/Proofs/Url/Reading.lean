import Mathlib.Data.List.DropRight
import TypedImport.Url.Reader

/-!
# What a text is read as

Only a text that is `Clean` is read as it is: from any other characters are dropped first (`cleaned_eq_self_iff`).

A text is read as a URL of the scheme that it begins with, or of the scheme of the base if it begins with none
(`scheme_of_read`). Where it begins with a scheme that has no rules of its own, the base says nothing about it
(`read_of_other`): a scheme of one letter is such a scheme.

**Files.** What is read as a `file` URL has the path of the base, or its path goes on from segments of the base with an
end of the text (`readFile_cases`).
-/

namespace TypedImport

/-- A scheme of one letter has no rules of its own. -/
theorem SchemeKind.of_oneLetter {scheme : String} (h : scheme.length = 1) : of scheme = .other := by
  have ne : ∀ name : String, name.length ≠ 1 → scheme ≠ name := by
    rintro name long rfl
    exact long h
  simp [of, ne "file" (by decide), ne "http" (by decide), ne "https" (by decide), ne "ws" (by decide),
    ne "wss" (by decide), ne "ftp" (by decide)]

theorem SchemeKind.of_eq_file_iff {scheme : String} : of scheme = .file ↔ scheme = "file" := by
  rw [of]
  split
  next h => exact iff_of_true rfl h
  next h => split <;> exact iff_of_false (by decide) h

namespace Url

variable {base : Option Url} {text scheme : String} {s rest : List Char} {before : List String} {url u : Url}

/-! ## The text that is read -/

/-- What is dropped at the ends of a text. -/
def isLow (c : Char) : Bool :=
  c.toNat ≤ 0x20

/-- What is dropped anywhere in a text. -/
def isBreak (c : Char) : Bool :=
  c = '\t' || c = '\n' || c = '\r'

theorem cleaned_eq (s : List Char) :
    cleaned s = ((s.dropWhile isLow).rdropWhile isLow).filter fun c => !isBreak c := by
  refine List.filter_congr fun c _ => ?_
  rw [isBreak, Bool.not_or, Bool.not_or]
  rfl

theorem isLow_of_isBreak {c : Char} (h : isBreak c = true) : isLow c = true := by
  simp only [isBreak, Bool.or_eq_true, decide_eq_true_iff] at h
  rcases h with (rfl | rfl) | rfl <;> rfl

/-- **Reading only drops characters.** -/
theorem cleaned_sublist (s : List Char) : (cleaned s).Sublist s := by
  rw [cleaned_eq]
  exact List.filter_sublist.trans ((List.rdropWhile_prefix _ _).sublist.trans (List.dropWhile_sublist _))

/-- Whether nothing of a text is dropped: what it begins and ends with is above the blank, and nothing breaks it. -/
structure Clean (s : List Char) : Prop where
  front : ∀ c ∈ s.head?, isLow c = false
  back : ∀ c ∈ s.getLast?, isLow c = false
  unbroken : ∀ c ∈ s, isBreak c = false

theorem dropWhile_isLow_iff : s.dropWhile isLow = s ↔ ∀ c ∈ s.head?, isLow c = false := by
  cases s <;> simp [List.dropWhile_eq_self_iff]

theorem rdropWhile_isLow_iff : s.rdropWhile isLow = s ↔ ∀ c ∈ s.getLast?, isLow c = false := by
  rw [List.rdropWhile_eq_self_iff]
  rcases List.eq_nil_or_concat s with rfl | ⟨front, last, rfl⟩ <;> simp

/-- **A text is read as it is** just if nothing of it is to be dropped. -/
theorem cleaned_eq_self_iff : cleaned s = s ↔ Clean s := by
  rw [cleaned_eq]
  refine ⟨fun same => ?_, fun clean => ?_⟩
  · have outer := List.rdropWhile_prefix isLow (s.dropWhile isLow)
    have inner := List.filter_sublist (l := (s.dropWhile isLow).rdropWhile isLow) (p := fun c => !isBreak c)
    rw [same] at inner
    have start : s.dropWhile isLow = s :=
      (List.dropWhile_sublist isLow).eq_of_length_le (inner.trans outer.sublist).length_le
    rw [start] at same inner outer
    have stop : s.rdropWhile isLow = s := outer.sublist.eq_of_length_le inner.length_le
    rw [stop, List.filter_eq_self] at same
    exact ⟨dropWhile_isLow_iff.1 start, rdropWhile_isLow_iff.1 stop, fun c member => by simpa using same c member⟩
  · rw [dropWhile_isLow_iff.2 clean.front, rdropWhile_isLow_iff.2 clean.back, List.filter_eq_self]
    exact fun c member => by rw [clean.unbroken c member]; rfl

/-- The first character is read if it is above the blank. -/
theorem cleaned_cons {c : Char} (high : isLow c = false) (s : List Char) : ∃ rest, cleaned (c :: s) = c :: rest := by
  have keep : isBreak c = false := Bool.eq_false_iff.2 fun h => Bool.noConfusion (high.symm.trans (isLow_of_isBreak h))
  have start : (c :: s).dropWhile isLow = c :: s := dropWhile_isLow_iff.2 fun d hd => Option.some.inj hd ▸ high
  -- the end is not dropped down to the first character
  obtain ⟨kept, hkept⟩ : ∃ kept, (c :: s).rdropWhile isLow = c :: kept := by
    cases cut : (c :: s).rdropWhile isLow with
    | nil =>
      have low := List.rdropWhile_eq_nil_iff.1 cut c List.mem_cons_self
      exact Bool.noConfusion (high.symm.trans low)
    | cons d kept =>
      have front := List.rdropWhile_prefix isLow (c :: s)
      rw [cut] at front
      exact ⟨kept, by rw [(List.cons_prefix_cons.1 front).1]⟩
  rw [cleaned_eq, start, hkept, List.filter_cons_of_pos (by rw [keep]; rfl)]
  exact ⟨_, rfl⟩

/-! ## The scheme in front -/

theorem cutScheme?_of_not_alpha {c : Char} (h : c.isAlpha = false) (s : List Char) : cutScheme? (c :: s) = none := by
  rw [cutScheme?, h]
  rfl

theorem isSchemeChar_of_isAlpha {c : Char} (h : c.isAlpha = true) : isSchemeChar c = true := by
  simp [isSchemeChar, Char.isAlphanum, h]

/-- A letter and a colon are a scheme. -/
theorem cutScheme?_letter {c : Char} (h : c.isAlpha = true) (s : List Char) :
    cutScheme? (c :: ':' :: s) = some (String.ofList [c.toLower], s) := by
  have colon : isSchemeChar ':' = false := by decide
  simp [cutScheme?, h, isSchemeChar_of_isAlpha h, colon]

/-- A scheme in front is some letters and other scheme characters before a colon. -/
theorem eq_of_cutScheme? (h : cutScheme? s = some (scheme, rest)) :
    ∃ name, s = name ++ ':' :: rest ∧ (∀ c ∈ name, isSchemeChar c = true) ∧
      scheme = String.ofList (name.map Char.toLower) := by
  rw [cutScheme?.eq_def] at h
  split at h
  next => cases h
  next =>
    split at h
    next => cases h
    next =>
      split at h
      next cut =>
        rw [Option.some.injEq, Prod.mk.injEq] at h
        obtain ⟨rfl, rfl⟩ := h
        refine ⟨_, ?_, List.all_eq_true.1 List.all_takeWhile, rfl⟩
        rw [← cut, List.takeWhile_append_dropWhile]
      next => cases h

theorem toLower_ascii_fin : ∀ n : Fin 128, (Char.ofNat n).toLower.toNat < 128 := by
  decide

theorem ascii_of_isSchemeChar {c : Char} (h : isSchemeChar c = true) : c.toNat < 128 := by
  have below : ∀ high : Char, high.toNat < 128 → c.val ≤ high.val → c.toNat < 128 :=
    fun _ ascii le => Nat.lt_of_le_of_lt (UInt32.le_iff_toNat_le.1 le) ascii
  simp only [isSchemeChar, Char.isAlphanum, Bool.or_eq_true, decide_eq_true_iff] at h
  rcases h with ((((letter | digit) | rfl) | rfl) | rfl)
  · rcases Bool.or_eq_true_iff.1 (show (c.isUpper || c.isLower) = true from letter) with upper | lower
    · exact below 'Z' (by decide) (of_decide_eq_true upper).2
    · exact below 'z' (by decide) (of_decide_eq_true (Bool.and_eq_true_iff.1 lower).2)
  · exact below '9' (by decide) (of_decide_eq_true (Bool.and_eq_true_iff.1 digit).2)
  · decide
  · decide
  · decide

/-- A scheme of one letter takes one byte. -/
theorem utf8ByteSize_of_cutScheme? (h : cutScheme? s = some (scheme, rest)) (one : scheme.length = 1) :
    scheme.utf8ByteSize = 1 := by
  obtain ⟨name, -, chars, rfl⟩ := eq_of_cutScheme? h
  rw [String.length_ofList, List.length_map] at one
  obtain ⟨c, rfl⟩ := List.length_eq_one_iff.1 one
  have low := toLower_ascii_fin ⟨c.toNat, ascii_of_isSchemeChar (chars c List.mem_cons_self)⟩
  rw [Char.ofNat_toNat] at low
  rw [List.map_singleton, ← String.singleton_eq_ofList, String.utf8ByteSize_singleton, Char.utf8Size_eq_one_iff]
  exact Nat.le_of_lt_succ low

/-! ## Schemes of the general rules -/

theorem scheme_readAfterSlashes (h : readAfterSlashes scheme s = .ok url) : url.scheme = scheme := by
  rw [readAfterSlashes] at h
  cases front : readAuthority scheme (s.takeWhile fun c => !endsAuthority (.of scheme) c)
      (s.dropWhile fun c => !endsAuthority (.of scheme) c) with
  | error fault =>
    simp only [front, bind, Except.bind] at h
    cases h
  | ok read =>
    simp only [front, bind, Except.bind, pure, Except.pure, Except.ok.injEq] at h
    rw [← h]
    rfl

theorem scheme_readRelative (h : readRelative u s = .ok url) : url.scheme = u.scheme := by
  rw [readRelative.eq_def] at h
  split at h
  next => rw [← Except.ok.inj h]
  next => rw [← Except.ok.inj h]; rfl
  next => rw [← Except.ok.inj h]
  next =>
    split at h
    next =>
      split at h
      next => split at h <;> exact scheme_readAfterSlashes h
      next => rw [← Except.ok.inj h]; rfl
    next => rw [← Except.ok.inj h]; rfl

/-! ## Files -/

/-- Whether a `file` URL goes on from segments with an end of a text. -/
def GoesOn (url : Url) (before : List String) (s : List Char) : Prop :=
  url.scheme = "file" ∧
    ∃ rest, rest <:+ s ∧ segmentsOf url = UrlPath.read .file before (rest.takeWhile fun c => !isTailMark c)

theorem goesOn_goOn (file : u.scheme = "file") (h : rest <:+ s) : GoesOn (goOn u before rest) before s := by
  refine ⟨file, rest, h, ?_⟩
  rw [← SchemeKind.of_eq_file_iff.2 file]
  rfl

theorem GoesOn.of_suffix (h : GoesOn url before rest) (suffix : rest <:+ s) : GoesOn url before s := by
  obtain ⟨file, inner, inside, segments⟩ := h
  exact ⟨file, inner, inside.trans suffix, segments⟩

/-- A text without a slash in front. -/
def afterSlash (s : List Char) : List Char :=
  match s with
  | c :: after => if isSlash c then after else s
  | [] => []

theorem afterSlash_suffix (s : List Char) : afterSlash s <:+ s := by
  unfold afterSlash
  split
  next c after =>
    split
    · exact List.suffix_cons c after
    · exact List.suffix_refl _
  next => exact List.nil_suffix

/-- After two slashes the path begins behind the host, or with a drive in its place. -/
theorem goesOn_readFileAfterSlashes (h : readFileAfterSlashes s = .ok url) : GoesOn url [] s := by
  rw [readFileAfterSlashes] at h
  split at h
  next =>
    rw [← Except.ok.inj h]
    exact goesOn_goOn rfl (List.suffix_refl s)
  next =>
    -- a host before a drive is dropped, which leaves the path as it is
    have without : ∀ (u : Url) (drive : Bool), GoesOn u [] s →
        (if drive then Except.ok { u with authority := some {} } else Except.ok u) = Except.ok (ε := UrlFault) url →
          GoesOn url [] s := by
      intro u drive goes read
      split at read <;> exact Except.ok.inj read ▸ goes
    cases host : readFileHost (s.takeWhile fun c => !(isSlash c || isTailMark c)) with
    | error fault =>
      simp only [host, bind, Except.bind] at h
      cases h
    | ok name =>
      simp only [host, bind, Except.bind, pure, Except.pure] at h
      -- the path is what follows the host, without a slash in front
      have behind := (afterSlash_suffix (s.dropWhile fun c => !(isSlash c || isTailMark c))).trans
        (List.dropWhile_suffix _)
      exact without _ _ (goesOn_goOn rfl behind) h

/-- The segments of a base, if there is one. -/
def segmentsOf? (base : Option Url) : List String :=
  (base.map segmentsOf).getD []

theorem segmentsOf?_none : segmentsOf? none = [] := rfl

theorem segmentsOf?_some (b : Url) : segmentsOf? (some b) = segmentsOf b := rfl

theorem parent_sublist (kind : SchemeKind) (segments : List String) :
    (UrlPath.parent kind segments).Sublist segments := by
  rw [UrlPath.parent]
  split
  · exact List.nil_sublist segments
  · split
    · exact List.Sublist.refl segments
    · exact List.dropLast_sublist segments

/-- A path from the root keeps a drive of the base. -/
theorem goesOn_oneSlash (h : rest <:+ s) :
    ∃ before, before.Sublist (segmentsOf? base) ∧ GoesOn (readFile.oneSlash base rest) before s := by
  have fromRoot : ∀ u : Url, u.scheme = "file" →
      ∃ before, before.Sublist (segmentsOf? base) ∧ GoesOn (goOn u [] rest) before s :=
    fun u file => ⟨[], List.nil_sublist _, goesOn_goOn file h⟩
  rw [readFile.oneSlash.eq_def]
  split
  next => exact fromRoot _ rfl
  next b =>
    split
    next => exact fromRoot _ rfl
    next =>
      split
      next first others segments =>
        split
        next =>
          refine ⟨[first], ?_, goesOn_goOn rfl h⟩
          rw [segmentsOf?, Option.map_some, Option.getD_some, segments]
          exact (List.nil_sublist others).cons_cons first
        next => exact fromRoot _ rfl
      next => exact fromRoot _ rfl

/-- **What is read as a file** has the path of the base, or goes on from segments of the base. -/
theorem readFile_cases (file : ∀ b ∈ base, b.scheme = "file") (h : readFile base s = .ok url) :
    (∃ b, base = some b ∧ url.scheme = "file" ∧ url.path = b.path) ∨
      ∃ before, before.Sublist (segmentsOf? base) ∧ GoesOn url before s := by
  have fromRoot : ∀ {rest}, rest <:+ s →
      ∃ before, before.Sublist (segmentsOf? base) ∧ GoesOn (goOn bareFile [] rest) before s :=
    fun suffix => ⟨[], List.nil_sublist _, goesOn_goOn rfl suffix⟩
  rw [readFile.eq_def] at h
  split at h
  next c rest =>
    have behind : rest <:+ c :: rest := List.suffix_cons c rest
    split at h
    next =>
      -- one slash or two
      split at h
      next d after =>
        split at h
        next =>
          have goes := goesOn_readFileAfterSlashes h
          exact .inr ⟨[], List.nil_sublist _, goes.of_suffix ((List.suffix_cons d after).trans behind)⟩
        next =>
          rw [← Except.ok.inj h]
          exact .inr (goesOn_oneSlash behind)
      next =>
        rw [← Except.ok.inj h]
        exact .inr (goesOn_oneSlash List.nil_suffix)
    next =>
      split at h
      next =>
        rw [← Except.ok.inj h]
        exact .inr (fromRoot (List.suffix_refl _))
      next b =>
        have same := file b rfl
        split at h
        next =>
          rw [← Except.ok.inj h]
          exact .inl ⟨b, rfl, same, rfl⟩
        next =>
          split at h
          next =>
            rw [← Except.ok.inj h]
            exact .inl ⟨b, rfl, same, rfl⟩
          next =>
            split at h
            next =>
              rw [← Except.ok.inj h]
              exact .inr (fromRoot (List.suffix_refl _))
            next =>
              rw [← Except.ok.inj h]
              exact .inr ⟨_, parent_sublist .file (segmentsOf b), goesOn_goOn same (List.suffix_refl _)⟩
  next =>
    split at h
    next b =>
      rw [← Except.ok.inj h]
      exact .inl ⟨b, rfl, file b rfl, rfl⟩
    next =>
      rw [← Except.ok.inj h]
      exact .inr (fromRoot (List.suffix_refl _))

theorem scheme_readFile (file : ∀ b ∈ base, b.scheme = "file") (h : readFile base s = .ok url) :
    url.scheme = "file" := by
  obtain ⟨b, -, scheme, -⟩ | ⟨before, -, scheme, -⟩ := readFile_cases file h <;> exact scheme

/-! ## Any text -/

theorem file_of_mem_filter : ∀ b ∈ base.filter (·.scheme = "file"), b.scheme = "file" := by
  intro b h
  simpa using (Option.filter_eq_some_iff.1 h).2

/-- **The scheme in front of a text** is that of its URL, whatever the base. -/
theorem scheme_readWithScheme (h : readWithScheme base scheme s = .ok url) : url.scheme = scheme := by
  rw [readWithScheme.eq_def] at h
  split at h
  next kind =>
    rw [SchemeKind.of_eq_file_iff.1 kind]
    exact scheme_readFile file_of_mem_filter h
  next =>
    split at h
    next b =>
      simp only at h
      split at h
      next same =>
        rw [Bool.and_eq_true, decide_eq_true_iff, decide_eq_true_iff] at same
        exact (scheme_readRelative h).trans same.2
      next => exact scheme_readAfterSlashes h
    next => exact scheme_readAfterSlashes h
  next =>
    split at h
    next => exact scheme_readAfterSlashes h
    next => rw [← Except.ok.inj h]; rfl
    next => rw [← Except.ok.inj h]; rfl

theorem readWithScheme_of_other (h : SchemeKind.of scheme = .other) (base base' : Option Url) (s : List Char) :
    readWithScheme base scheme s = readWithScheme base' scheme s := by
  rw [readWithScheme.eq_def, readWithScheme.eq_def, h]

/-- **A URL has the scheme that its text begins with**, or the scheme of the base if there is none. -/
theorem scheme_of_read (h : read base text = .ok url) :
    (∃ rest, cutScheme? (cleaned text.toList) = some (url.scheme, rest)) ∨
      cutScheme? (cleaned text.toList) = none ∧ ∃ b, base = some b ∧ url.scheme = b.scheme := by
  rw [read.eq_def] at h
  simp only at h
  split at h
  next scheme rest cut =>
    rw [scheme_readWithScheme h]
    exact .inl ⟨rest, cut⟩
  next cut =>
    refine .inr ⟨cut, ?_⟩
    cases base with
    | none => cases h
    | some b =>
      refine ⟨b, rfl, ?_⟩
      simp only at h
      split at h
      next => rw [← Except.ok.inj h]
      next =>
        split at h
        next => cases h
        next =>
          split at h
          next file =>
            rw [file]
            exact scheme_readFile (fun b' same => Option.some.inj same ▸ file) h
          next => exact scheme_readRelative h

/-- **A scheme without rules of its own makes the base irrelevant.** -/
theorem read_of_other (cut : cutScheme? (cleaned text.toList) = some (scheme, rest))
    (other : SchemeKind.of scheme = .other) (base base' : Option Url) : read base text = read base' text := by
  simp only [read, cut]
  exact readWithScheme_of_other other base base' rest

end Url

end TypedImport
