import Mathlib.Algebra.Ring.Nat
import TypedImport.Proofs.Url.FilePath
import TypedImport.Proofs.Url.Reading

/-!
# The names in a text that is read

The names of the file of a URL have no more bytes than the segments that the URL was read onto and the text that was
read (`weight_of_read`). Slashes of either kind, a query, a fragment, a scheme and all that is dropped from a text are in
no name, so of a text only what is left without them counts (`kept`). It is all of the text just if there is none of
them in it (`kept_eq_self_iff`).
-/

namespace TypedImport

open Percent (decode)

namespace Url

variable {base : Option Url} {url u : Url} {text : String} {s piece : List Char} {segments before : List String}
  {file : Bytes}

/-! ## Bytes in segments -/

/-- How many bytes the names of segments have. -/
def weight (segments : List String) : Nat :=
  (segments.map fun segment => (decode (Utf8.encode segment)).length).sum

theorem weight_append (these those : List String) : weight (these ++ those) = weight these + weight those := by
  rw [weight, List.map_append, List.sum_append_nat]
  rfl

theorem weight_le_of_sublist (h : before.Sublist segments) : weight before ≤ weight segments := by
  induction h with
  | slnil => exact Nat.le_refl _
  | cons segment _ ih => exact Nat.le_trans ih (Nat.le_add_left _ _)
  | cons_cons segment _ ih => exact Nat.add_le_add_left ih _

theorem weight_nil : weight [] = 0 := rfl

theorem weight_singleton (segment : String) : weight [segment] = (decode (Utf8.encode segment)).length :=
  Nat.add_zero _

theorem weight_empty : weight [""] = 0 := rfl

theorem weight_segmentsOfPath (path : String) :
    weight (segmentsOfPath path) = ((pathComponents path.toList).map Utf8.encodeChars).flatten.length := by
  simp only [weight, segmentsOfPath, List.map_map, List.length_flatten, Function.comp_def,
    Percent.decode_encode_segment]

theorem length_filter_decoded_le (segments : List String) :
    ((toFilePath?.decoded segments).filter (· != 0x2f)).length ≤ weight segments := by
  induction segments with
  | nil => exact Nat.le_refl 0
  | cons segment rest ih =>
    rw [toFilePath?.decoded, List.flatMap_cons, List.filter_append, List.length_append,
      List.filter_cons_of_neg (by decide)]
    exact Nat.add_le_add (List.length_filter_le _ _) ih

theorem exists_of_path? (h : Disk.path? url = some file) :
    url.scheme = "file" ∧ file = toFilePath?.close (toFilePath?.decoded (segmentsOf url)) := by
  rw [Disk.path?] at h
  split at h
  next scheme =>
    have path : ∀ {list}, url.segments? = some list → segmentsOf url = list := by
      intro list same
      rw [segments?] at same
      split at same
      next hpath => rw [segmentsOf, hpath, Option.some.inj same]
      next => cases same
    refine ⟨scheme, ?_⟩
    rw [toFilePath?.eq_def] at h
    split at h
    next list _ hlist _ => rw [path hlist, ← Option.some.inj h]
    next list _ hlist _ =>
      split at h
      next => rw [path hlist, ← Option.some.inj h]
      next => cases h
    next => cases h
  next => cases h

/-- **The names of a file have no more bytes than the segments.** -/
theorem length_components_le (h : Disk.path? url = some file) :
    (byteComponents file).flatten.length ≤ weight (segmentsOf url) := by
  obtain ⟨-, rfl⟩ := exists_of_path? h
  rw [byteComponents_close, byteComponents_eq]
  calc ((List.splitOn 0x2f (toFilePath?.decoded (segmentsOf url))).filter isName).flatten.length
      ≤ (List.splitOn 0x2f (toFilePath?.decoded (segmentsOf url))).flatten.length :=
        List.filter_sublist.flatten.length_le
    _ = ((toFilePath?.decoded (segmentsOf url)).filter (· != 0x2f)).length := by rw [Text.flatten_splitOn]
    _ ≤ weight (segmentsOf url) := length_filter_decoded_le _

/-! ## Bytes that are read into segments -/

theorem length_decode_stored_le (kind : SchemeKind) (first : Bool) (piece : List Char) :
    (decode (Utf8.encode (UrlPath.stored kind first piece))).length ≤ (Utf8.encodeChars piece).length := by
  have general : (decode (Utf8.encode (Percent.encode Percent.path piece))).length ≤
      (Utf8.encodeChars piece).length := by
    rw [Percent.decode_encode_path]
    exact Percent.length_decode_le _
  rw [UrlPath.stored.eq_def]
  split
  next a b =>
    split
    next drive =>
      -- a bar and a colon are a byte each
      refine Nat.le_trans (Percent.length_decode_le _) ?_
      simp only [UrlPath.isDrive, Bool.and_eq_true, Bool.or_eq_true, decide_eq_true_iff] at drive
      rw [Utf8.encode, String.toList_ofList, Utf8.encodeChars_cons, Utf8.encodeChars_cons a [b], List.length_append,
        List.length_append]
      rcases drive.2.2 with rfl | rfl <;> exact Nat.le_refl _
    next => exact general
  next => exact general

theorem shorten_sublist (segments : List String) : (UrlPath.shorten segments).Sublist segments := by
  rw [UrlPath.shorten]
  split
  · exact List.nil_sublist segments
  · split
    · exact List.Sublist.refl segments
    · exact List.dropLast_sublist segments

theorem weight_shorten_le (segments : List String) : weight (UrlPath.shorten segments) ≤ weight segments :=
  weight_le_of_sublist (shorten_sublist segments)

/-- The last segment adds no more than what is stored of it. -/
theorem weight_extend_singleton_le (kind : SchemeKind) (before : List String) (piece : List Char) :
    weight (UrlPath.extend kind before [piece]) ≤
      weight before + (decode (Utf8.encode (UrlPath.stored kind before.isEmpty piece))).length := by
  have shorter := weight_shorten_le before
  rw [UrlPath.extend]
  split
  next => rw [weight_append, weight_empty]; omega
  next =>
    split
    next => rw [weight_append, weight_empty]; omega
    next => rw [weight_append, weight_singleton]

/-- **Reading segments adds no more than their bytes.** -/
theorem weight_extend_le (kind : SchemeKind) (before : List String) (pieces : List (List Char)) :
    weight (UrlPath.extend kind before pieces) ≤ weight before + (Utf8.encodeChars pieces.flatten).length := by
  induction pieces generalizing before with
  | nil => exact Nat.le_add_right _ _
  | cons piece rest ih =>
    have whole := length_decode_stored_le kind before.isEmpty piece
    rw [List.flatten_cons, Utf8.encodeChars_append, List.length_append]
    cases rest with
    | nil =>
      have last := weight_extend_singleton_le kind before piece
      omega
    | cons next others =>
      have shorter := weight_shorten_le before
      have pushed := weight_append before [UrlPath.stored kind before.isEmpty piece]
      rw [weight_singleton] at pushed
      rw [UrlPath.extend.eq_3 kind before piece _ (List.cons_ne_nil next others)]
      split
      next => exact Nat.le_trans (ih _) (by omega)
      next =>
        split
        next => exact Nat.le_trans (ih _) (by omega)
        next => exact Nat.le_trans (ih _) (by omega)

theorem weight_dropEmpty_le (segments : List String) : weight (UrlPath.dropEmpty segments) ≤ weight segments := by
  have kept := weight_le_of_sublist (List.dropWhile_sublist (· = "") (l := segments))
  rw [UrlPath.dropEmpty.eq_def]
  split
  next => exact Nat.zero_le _
  next => exact kept

theorem filter_map_slash (s : List Char) :
    (s.map fun c => if c = '\\' then '/' else c).filter (· != '/') = s.filter fun c => !isSlash c := by
  induction s with
  | nil => rfl
  | cons c rest ih =>
    rw [List.map_cons, List.filter_cons, List.filter_cons, ih]
    by_cases back : c = '\\'
    · subst back
      rfl
    · simp [isSlash, back]

/-- **The pieces of a path** are all of it but its slashes. -/
theorem flatten_cut (s : List Char) : (UrlPath.cut .file s).flatten = s.filter fun c => !isSlash c := by
  rw [UrlPath.cut, show SchemeKind.file.isSpecial = true from rfl, if_pos rfl, Text.splitChars_eq_splitOn,
    Text.flatten_splitOn, filter_map_slash]

theorem weight_read_le (before : List String) (s : List Char) :
    weight (UrlPath.read .file before s) ≤
      weight before + (Utf8.encodeChars (s.filter fun c => !isSlash c)).length := by
  rw [UrlPath.read, if_pos rfl, ← flatten_cut]
  exact Nat.le_trans (weight_dropEmpty_le _) (weight_extend_le .file before _)

/-- Whether a character is in no name: it is a slash or begins a query or a fragment. -/
def isMark (c : Char) : Bool :=
  isSlash c || isTailMark c

theorem weight_le_of_goesOn (h : GoesOn url before s) :
    weight (segmentsOf url) ≤ weight before + (Utf8.encodeChars (s.filter fun c => !isMark c)).length := by
  obtain ⟨-, rest, suffix, read⟩ := h
  rw [read]
  refine Nat.le_trans (weight_read_le before _) (Nat.add_le_add_left (Utf8.length_encodeChars_le ?_) _)
  -- in front of a query and a fragment the marks are the slashes
  have marks : (rest.takeWhile fun c => !isTailMark c).filter (fun c => !isSlash c) =
      (rest.takeWhile fun c => !isTailMark c).filter fun c => !isMark c := by
    refine List.filter_congr fun c member => ?_
    have front := List.all_eq_true.1 List.all_takeWhile c member
    rw [isMark, Bool.not_or, front, Bool.and_true]
  rw [marks]
  exact ((List.takeWhile_sublist _).trans suffix.sublist).filter _

theorem weight_of_readFile (scheme : ∀ b ∈ base, b.scheme = "file") (h : readFile base s = .ok url) :
    weight (segmentsOf url) ≤ weight (segmentsOf? base) + (Utf8.encodeChars (s.filter fun c => !isMark c)).length := by
  obtain ⟨b, rfl, -, path⟩ | ⟨before, sublist, goes⟩ := readFile_cases scheme h
  · rw [segmentsOf, path]
    exact Nat.le_add_right _ _
  · exact Nat.le_trans (weight_le_of_goesOn goes) (Nat.add_le_add_right (weight_le_of_sublist sublist) _)

/-! ## What of a text comes into names -/

/-- What follows the scheme of a text. -/
def afterScheme (s : List Char) : List Char :=
  match cutScheme? s with
  | some (_, rest) => rest
  | none => s

/-- **What of a text can come into names.** -/
def kept (s : List Char) : List Char :=
  (afterScheme (cleaned s)).filter fun c => !isMark c

theorem afterScheme_sublist (s : List Char) : (afterScheme s).Sublist s := by
  rw [afterScheme]
  split
  next rest cut =>
    obtain ⟨name, rfl, -, -⟩ := eq_of_cutScheme? cut
    exact (List.sublist_cons_self ':' rest).trans (List.sublist_append_right name _)
  next => exact List.Sublist.refl s

/-- What follows a scheme is shorter by its colon. -/
theorem afterScheme_eq_self_iff : afterScheme s = s ↔ cutScheme? s = none := by
  rw [afterScheme]
  split
  next scheme rest cut =>
    obtain ⟨name, whole, -, -⟩ := eq_of_cutScheme? cut
    refine iff_of_false (fun same => ?_) (by rw [cut]; exact Option.some_ne_none _)
    have length := congrArg List.length whole
    rw [List.length_append, List.length_cons, same] at length
    omega
  next cut => exact iff_of_true rfl cut

theorem kept_sublist (s : List Char) : (kept s).Sublist s :=
  List.filter_sublist.trans ((afterScheme_sublist _).trans (cleaned_sublist s))

/-- **All of a text can come into names** just if nothing is dropped from it, and it has neither a scheme nor a mark. -/
theorem kept_eq_self_iff : kept s = s ↔ Clean s ∧ cutScheme? s = none ∧ ∀ c ∈ s, isMark c = false := by
  rw [← cleaned_eq_self_iff, ← afterScheme_eq_self_iff]
  constructor
  · intro same
    have outer : (afterScheme (cleaned s)).Sublist (cleaned s) := afterScheme_sublist _
    have inner : (kept s).Sublist (afterScheme (cleaned s)) := List.filter_sublist
    rw [same] at inner
    have clean : cleaned s = s := (cleaned_sublist s).eq_of_length_le (inner.trans outer).length_le
    rw [clean] at outer inner
    have rest : afterScheme s = s := outer.eq_of_length_le inner.length_le
    rw [kept, clean, rest, List.filter_eq_self] at same
    exact ⟨clean, rest, fun c member => by simpa using same c member⟩
  · rintro ⟨clean, rest, unmarked⟩
    rw [kept, clean, rest, List.filter_eq_self]
    exact fun c member => by rw [unmarked c member]; rfl

theorem kept_of_scheme {scheme : String} {rest : List Char} (cut : cutScheme? (cleaned s) = some (scheme, rest)) :
    kept s = rest.filter fun c => !isMark c := by
  rw [kept, afterScheme, cut]

theorem kept_of_no_scheme (cut : cutScheme? (cleaned s) = none) : kept s = (cleaned s).filter fun c => !isMark c := by
  rw [kept, afterScheme, cut]

/-- **The names of a file that is read** have no more bytes than those of the base and what is kept of the text. -/
theorem weight_of_read (scheme : ∀ b ∈ base, b.scheme = "file") (h : read base text = .ok url)
    (file : url.scheme = "file") :
    weight (segmentsOf url) ≤ weight (segmentsOf? base) + (Utf8.encodeChars (kept text.toList)).length := by
  rw [read.eq_def] at h
  simp only at h
  split at h
  next own rest cut =>
    rw [← scheme_readWithScheme h, file] at cut
    rw [← scheme_readWithScheme h, file] at h
    have whole : base.filter (·.scheme = "file") = base := by
      cases base with
      | none => rfl
      | some b => exact Option.filter_some_pos (by simpa using scheme b rfl)
    rw [kept_of_scheme cut]
    rw [readWithScheme.eq_def, show SchemeKind.of "file" = .file from rfl, whole] at h
    exact weight_of_readFile scheme h
  next cut =>
    rw [kept_of_no_scheme cut]
    cases base with
    | none => cases h
    | some b =>
      simp only at h
      split at h
      next =>
        rw [← Except.ok.inj h]
        exact Nat.le_add_right _ _
      next =>
        split at h
        next => cases h
        next =>
          rw [if_pos (scheme b rfl)] at h
          exact weight_of_readFile scheme h

end Url

end TypedImport
