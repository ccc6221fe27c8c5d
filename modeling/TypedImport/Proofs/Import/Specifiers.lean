import TypedImport.Import.Specifier
import TypedImport.Proofs.Url.FilePath
import TypedImport.Proofs.Url.Reading

/-!
# What specifiers are resolved to

**Absolute paths** are no URLs, so they are resolved to the URL of the path, which does not depend on what they are
relative to: an absolute path names its file (`absolutePath_names_file`).

**Drive letters.** A text that reads as a URL with a scheme of one letter is not taken for that URL at first. It is
relative then, and is read as the same URL again where there is something that it may be relative to
(`resolve_oneLetter_iff`).
-/

namespace TypedImport.Specifier

variable {specifier : String} {base referrer : Option Url} {url : Url}

/-! ## Absolute paths -/

/-- No text with a slash in front is a URL. -/
theorem parse_of_absolutePath (h : isAbsolutePath specifier) : Url.parse specifier = .error .relativeWithoutBase := by
  cases chars : specifier.toList with
  | nil => simp [isAbsolutePath, chars] at h
  | cons c rest =>
    simp only [isAbsolutePath, chars, List.head?_cons, Option.some.injEq, decide_eq_true_iff] at h
    subst h
    obtain ⟨tail, cleaned⟩ := Url.cleaned_cons (c := '/') (by decide) rest
    rw [Url.parse, Url.read, chars, cleaned, Url.cutScheme?_of_not_alpha (by decide)]

theorem absolute?_eq_some_iff :
    absolute? specifier = some url ↔ Url.parse specifier = .ok url ∧ 1 < url.scheme.utf8ByteSize := by
  rw [absolute?]
  cases parsed : Url.parse specifier with
  | error fault => exact iff_of_false (fun h => absurd h.symm (Option.some_ne_none url)) fun h => nomatch h.1
  | ok u =>
    simp only [Option.ite_none_right_eq_some, Option.some.injEq, Except.ok.injEq]
    constructor
    · rintro ⟨long, rfl⟩
      exact ⟨rfl, long⟩
    · rintro ⟨rfl, long⟩
      exact ⟨long, rfl⟩

theorem absolute?_of_absolutePath (h : isAbsolutePath specifier) : absolute? specifier = none := by
  rw [absolute?, parse_of_absolutePath h]

/-- **What a specifier is resolved to**: the URL that it is by itself, the URL of the path that it is, or else what it
is relative to something. -/
theorem resolve_eq_ok_iff :
    resolve base referrer specifier = .ok url ↔
      absolute? specifier = some url ∨
        isAbsolutePath specifier ∧ url = Url.ofSegments (Url.segmentsOfPath specifier) ∨
        specifier ≠ "" ∧ absolute? specifier = none ∧ ¬ isAbsolutePath specifier ∧
          ∃ source, referrer.or base = some source ∧ Url.join source specifier = .ok url := by
  rw [resolve]
  split
  next empty =>
    obtain rfl := String.isEmpty_iff.1 empty
    have none : absolute? "" = none := rfl
    have relative : ¬ isAbsolutePath "" := by decide
    simp [none, relative]
  next present =>
    rw [String.isEmpty_iff] at present
    cases own : absolute? specifier with
    | some u =>
      have relative : ¬ isAbsolutePath specifier := by
        intro absolute
        rw [absolute?_of_absolutePath absolute] at own
        cases own
      simp [relative]
    | none =>
      by_cases absolute : isAbsolutePath specifier
      · simp [absolute, Url.ofFilePath?, eq_comm]
      · cases hsource : referrer.or base with
        | none => simp [absolute]
        | some source => cases joined : Url.join source specifier <;> simp [absolute, present, joined]

theorem resolve_of_absolutePath (h : isAbsolutePath specifier) (base referrer : Option Url) :
    resolve base referrer specifier = .ok (Url.ofSegments (Url.segmentsOfPath specifier)) :=
  resolve_eq_ok_iff.2 (.inr (.inl ⟨h, rfl⟩))

/-- **An absolute path names exactly its file**, whatever its characters and whatever it could be relative to: the path
of the file that is read has the names of the given one, and two paths have one URL, and one text of it, just if they
have the same names. -/
theorem absolutePath_names_file (absolute : isAbsolutePath specifier) (base referrer : Option Url) :
    ∃ url file, resolve base referrer specifier = .ok url ∧ url.scheme = "file" ∧
      Disk.path? url = some file ∧
      (∀ disk : Disk, disk.fetch url =
        ((disk.read file).map fun bytes => ⟨bytes, none⟩).mapError DiskFault.failure) ∧
      byteComponents file = (pathComponents specifier.toList).map Utf8.encodeChars ∧
      ∀ other, isAbsolutePath other → ∀ base' referrer' : Option Url,
        ∃ url', resolve base' referrer' other = .ok url' ∧
          (url' = url ↔ pathComponents other.toList = pathComponents specifier.toList) ∧
          (url'.text = url.text ↔ pathComponents other.toList = pathComponents specifier.toList) := by
  obtain ⟨file, path, names⟩ := Url.path?_ofSegments specifier
  refine ⟨_, file, resolve_of_absolutePath absolute base referrer, rfl, path, Disk.fetch_of_path path, names, ?_⟩
  intro other otherAbsolute base' referrer'
  refine ⟨_, resolve_of_absolutePath otherAbsolute base' referrer', ⟨fun same => ?_, fun same => ?_⟩,
    Url.text_ofSegments_inj⟩
  · exact Url.text_ofSegments_inj.1 (congrArg Url.text same)
  · rw [Url.segmentsOfPath, Url.segmentsOfPath, same]

theorem oddPath_names_file :
    ∃ url file, resolve none none "/a b//./..\\%2F#?é" = .ok url ∧ Disk.path? url = some file ∧
      byteComponents file = [Utf8.encode "a b", Utf8.encode "..\\%2F#?é"] := by
  have absolute : isAbsolutePath "/a b//./..\\%2F#?é" := by decide
  obtain ⟨url, file, resolved, -, path, -, names, -⟩ := absolutePath_names_file absolute none none
  exact ⟨url, file, resolved, path, names⟩

/-! ## Drive letters -/

theorem parse_oneLetter (h : Url.parse specifier = .ok url) (one : url.scheme.length = 1) :
    url.scheme.utf8ByteSize = 1 := by
  rcases Url.scheme_of_read h with ⟨rest, cut⟩ | ⟨-, b, none, -⟩
  · exact Url.utf8ByteSize_of_cutScheme? cut one
  · cases none

/-- What reads as a URL with a scheme of one letter does so against any base. -/
theorem read_oneLetter (h : Url.read base specifier = .ok url) (long : ∀ b ∈ base, 1 < b.scheme.length)
    (one : url.scheme.length = 1) (base' : Option Url) : Url.read base' specifier = .ok url := by
  rcases Url.scheme_of_read h with ⟨rest, cut⟩ | ⟨-, b, source, same⟩
  · rw [Url.read_of_other cut (SchemeKind.of_oneLetter one) base' base, h]
  · have longer := long b source
    rw [same] at one
    omega

/-- What a specifier is by itself has a scheme of more than one letter. -/
theorem absolute?_ne_oneLetter (one : url.scheme.length = 1) : absolute? specifier ≠ some url := by
  intro own
  obtain ⟨parsed, long⟩ := absolute?_eq_some_iff.1 own
  rw [parse_oneLetter parsed one] at long
  omega

/-- **A specifier is resolved to a URL with a scheme of one letter** just if it reads as that URL by itself and there is
something that it may be relative to. -/
theorem resolve_oneLetter_iff (hbase : ∀ b ∈ base, 1 < b.scheme.length)
    (hreferrer : ∀ b ∈ referrer, 1 < b.scheme.length) :
    resolve base referrer specifier = .ok url ∧ url.scheme.length = 1 ↔
      (referrer.or base).isSome ∧ Url.parse specifier = .ok url ∧ url.scheme.length = 1 := by
  rw [resolve_eq_ok_iff]
  constructor
  · rintro ⟨own | ⟨-, rfl⟩ | ⟨-, -, -, source, hsource, joined⟩, one⟩
    · exact absurd own (absolute?_ne_oneLetter one)
    · exact absurd (show "file".length = 1 from one) (by decide)
    · have long : ∀ b ∈ some source, 1 < b.scheme.length := by
        rintro b ⟨⟩
        rcases Option.or_eq_some_iff.1 hsource with same | ⟨-, same⟩
        · exact hreferrer source same
        · exact hbase source same
      exact ⟨Option.isSome_of_eq_some hsource, read_oneLetter joined long one none, one⟩
  · rintro ⟨present, parsed, one⟩
    obtain ⟨source, hsource⟩ := Option.isSome_iff_exists.1 present
    have own : absolute? specifier = none := by
      rw [Option.eq_none_iff_forall_ne_some]
      intro u hu
      rw [absolute?_eq_some_iff, parsed, Except.ok.injEq] at hu
      rw [← hu.1, parse_oneLetter parsed one] at hu
      omega
    have relative : ¬ isAbsolutePath specifier := by
      intro absolute
      rw [parse_of_absolutePath absolute] at parsed
      cases parsed
    have nonempty : specifier ≠ "" := by
      rintro rfl
      cases parsed
    have joined := read_oneLetter parsed (fun b none => absurd none (Option.not_mem_none b)) one (some source)
    exact ⟨.inr (.inr ⟨nonempty, own, relative, source, hsource, joined⟩), one⟩

/-- No drive is read where the text begins with none. -/
theorem resolve_relative_ne_oneLetter :
    ∃ base, Url.parse "file:///project/src/" = .ok base ∧
      ∀ url, resolve (some base) none "./a.csv" = .ok url → url.scheme.length ≠ 1 := by
  refine ⟨⟨"file", some {}, .segments ["project", "src", ""], none, none⟩, rfl, fun url resolved one => ?_⟩
  have long : ∀ b ∈ some (⟨"file", some {}, .segments ["project", "src", ""], none, none⟩ : Url),
      1 < b.scheme.length := by
    rintro b ⟨⟩
    decide
  have own := ((resolve_oneLetter_iff long fun b none => absurd none (Option.not_mem_none b)).1 ⟨resolved, one⟩).2.1
  cases own

/-- The path of a file on a drive is taken for a URL with the drive as its scheme, with slashes of either kind. -/
theorem resolve_drive :
    ∃ base slash backslash, Url.parse "file:///project/src/" = .ok base ∧
      (Url.parse "c:/x.csv" = .ok slash ∧ slash.scheme.length = 1 ∧
        resolve (some base) none "c:/x.csv" = .ok slash) ∧
      (Url.parse "C:\\data\\a.csv" = .ok backslash ∧ backslash.scheme.length = 1 ∧
        resolve (some base) none "C:\\data\\a.csv" = .ok backslash) :=
  ⟨⟨"file", some {}, .segments ["project", "src", ""], none, none⟩,
    ⟨"c", none, .segments ["x.csv"], none, none⟩, ⟨"c", none, .rootless "\\data\\a.csv", none, none⟩,
    rfl, ⟨rfl, rfl, rfl⟩, ⟨rfl, rfl, rfl⟩⟩

end TypedImport.Specifier
