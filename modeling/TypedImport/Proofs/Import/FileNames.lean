import TypedImport.Proofs.Import.Specifiers
import TypedImport.Proofs.Url.PlainName

/-!
# Names in a directory

A file in a directory can be named by its path, or by its name alone relative to the directory. The path names it
always. The name is read as a part of a URL, and stands for the same file just if it is a plain one
(`file?_name_iff`): what is dropped from a name, cut off or decoded is missing from the path, so another file is read or
none.
-/

namespace TypedImport.Specifier

variable {directory name specifier : String} {file : Bytes} {url : Url}

/-- **The path of the file that a specifier stands for** relative to a directory, if it stands for one. -/
def file? (directory specifier : String) : Option Bytes :=
  (resolve (Url.ofDirectoryPath? directory) none specifier).toOption.bind Disk.path?

theorem file?_eq_some_iff :
    file? directory specifier = some file ↔
      ∃ url, resolve (Url.ofDirectoryPath? directory) none specifier = .ok url ∧ Disk.path? url = some file := by
  rw [file?]
  cases resolve (Url.ofDirectoryPath? directory) none specifier <;> simp [Except.toOption]

/-! ## The path of a file in a directory -/

/-- **The names of the path** of a file in a directory. -/
def below (directory name : String) : List Bytes :=
  (pathComponents directory.toList ++ [name.toList]).map Utf8.encodeChars

theorem below_eq (directory name : String) :
    below directory name =
      (pathComponents directory.toList).map Utf8.encodeChars ++ [Utf8.encodeChars name.toList] := by
  rw [below, List.map_append, List.map_singleton]

theorem length_below (directory name : String) :
    (below directory name).flatten.length =
      ((pathComponents directory.toList).map Utf8.encodeChars).flatten.length +
        (Utf8.encodeChars name.toList).length := by
  rw [below_eq, List.flatten_append, List.length_append, List.flatten_singleton]

theorem pathComponents_below (directory : String) (present : name ≠ "") (noSlash : '/' ∉ name.toList)
    (dot : name ≠ ".") :
    pathComponents (directory ++ "/" ++ name).toList = pathComponents directory.toList ++ [name.toList] := by
  have single : [name.toList].filter (fun name => !name.isEmpty && name != ['.']) = [name.toList] := by
    have hpresent : name.toList ≠ [] := fun h => present (String.toList_eq_nil_iff.1 h)
    have hdot : name.toList ≠ ['.'] := fun h => dot (String.toList_inj.1 h)
    simp [hpresent, hdot]
  rw [String.toList_append, String.toList_append, List.append_assoc, show "/".toList = ['/'] from rfl,
    List.singleton_append, pathComponents, pathComponents, Text.splitChars_eq_splitOn, Text.splitChars_eq_splitOn,
    List.splitOn_append_cons_self, List.splitOn_eq_singleton noSlash, List.filter_append, single]

theorem isAbsolutePath_below (h : isAbsolutePath directory) : isAbsolutePath (directory ++ "/" ++ name) := by
  simp only [isAbsolutePath, String.toList_append, List.append_assoc, decide_eq_true_iff] at h ⊢
  rw [List.head?_append_of_ne_nil, h]
  rintro empty
  rw [empty] at h
  cases h

/-- **The path of a file in a directory names it.** -/
theorem file?_path (hdirectory : isAbsolutePath directory) (present : name ≠ "") (noSlash : '/' ∉ name.toList)
    (dot : name ≠ ".") :
    file? directory (directory ++ "/" ++ name) = some (Url.toFilePath?.close (rooted (below directory name))) := by
  have names := pathComponents_below directory present noSlash dot
  rw [file?_eq_some_iff]
  refine ⟨_, resolve_of_absolutePath (isAbsolutePath_below hdirectory) _ _, ?_⟩
  have named : pathComponents (directory ++ "/" ++ name).toList ≠ [] := by
    rw [names]
    exact List.append_ne_nil_of_right_ne_nil _ (List.cons_ne_nil _ _)
  rw [Url.path?_ofSegments_of_ne named, names, below]

/-! ## The name alone -/

theorem segmentsOf_ofDirectory (directory : String) :
    Url.segmentsOf (Url.ofDirectory directory) = Url.segmentsOfPath directory ++ [""] := rfl

/-- A name takes the place of the empty segment. -/
theorem parent_ofDirectory (directory : String) :
    UrlPath.parent .file (Url.segmentsOf (Url.ofDirectory directory)) = Url.segmentsOfPath directory := by
  rw [segmentsOf_ofDirectory, UrlPath.parent, List.getLast?_concat]
  simp only [show UrlPath.isWrittenDrive "".toList = false from rfl, Bool.and_false, Bool.false_eq_true, if_false,
    List.dropLast_concat]

theorem weight_ofDirectory (directory : String) :
    Url.weight (Url.segmentsOf (Url.ofDirectory directory)) =
      ((pathComponents directory.toList).map Utf8.encodeChars).flatten.length := by
  rw [segmentsOf_ofDirectory, Url.weight_append, Url.weight_empty, Nat.add_zero, Url.weight_segmentsOfPath]

/-- A name that stands for a file is read as a URL of its own, or relative to the directory. -/
theorem exists_read_of_file? (hdirectory : isAbsolutePath directory) (relative : ¬ isAbsolutePath name)
    (h : file? directory name = some file) :
    ∃ url, Disk.path? url = some file ∧
      (Url.parse name = .ok url ∨ Url.join (Url.ofDirectory directory) name = .ok url) := by
  obtain ⟨url, resolved, path⟩ := file?_eq_some_iff.1 h
  refine ⟨url, path, ?_⟩
  rcases resolve_eq_ok_iff.1 resolved with own | ⟨absolute, -⟩ | ⟨-, -, -, source, hsource, joined⟩
  · exact .inl (absolute?_eq_some_iff.1 own).1
  · exact absurd absolute relative
  · rw [Option.none_or, Url.ofDirectoryPath?_eq hdirectory, Option.some.injEq] at hsource
    exact .inr (hsource ▸ joined)

/-- A name whose file has names of as many bytes as the path has comes whole into them. -/
theorem kept_of_length_le (hdirectory : isAbsolutePath directory) (relative : ¬ isAbsolutePath name)
    (h : file? directory name = some file)
    (long : (below directory name).flatten.length ≤ (byteComponents file).flatten.length) :
    Url.kept name.toList = name.toList := by
  obtain ⟨url, path, read⟩ := exists_read_of_file? hdirectory relative h
  have scheme := (Url.exists_of_path? path).1
  have weight : Url.weight (Url.segmentsOf url) ≤
      Url.weight (Url.segmentsOf (Url.ofDirectory directory)) + (Utf8.encodeChars (Url.kept name.toList)).length := by
    rcases read with parsed | joined
    · have own := Url.weight_of_read (fun b none => absurd none (Option.not_mem_none b)) parsed scheme
      rw [Url.segmentsOf?_none, Url.weight_nil] at own
      exact Nat.le_trans own (Nat.add_le_add_right (Nat.zero_le _) _)
    · have below := Url.weight_of_read (fun b same => Option.some.inj same ▸ rfl) joined scheme
      rwa [Url.segmentsOf?_some] at below
  have short := Url.length_components_le path
  rw [weight_ofDirectory] at weight
  rw [length_below] at long
  exact Utf8.eq_of_length_encodeChars_le (Url.kept_sublist _) (by omega)

/-- A name that can come whole into the path is no URL of its own, and is read relative to the directory. -/
theorem resolve_of_kept (hdirectory : isAbsolutePath directory) (relative : ¬ isAbsolutePath name) (present : name ≠ "")
    (whole : Url.kept name.toList = name.toList) :
    resolve (Url.ofDirectoryPath? directory) none name =
      .ok (if UrlPath.isDrive name.toList then Url.goOn Url.bareFile [] name.toList
        else Url.goOn (Url.ofDirectory directory) (Url.segmentsOfPath directory) name.toList) := by
  obtain ⟨clean, noScheme, -⟩ := Url.kept_eq_self_iff.1 whole
  have own : absolute? name = none := by
    rw [absolute?, Url.parse, Url.read, Url.cleaned_eq_self_iff.2 clean, noScheme]
  have joined := Url.read_of_kept (u := Url.ofDirectory directory) whole (mt String.toList_eq_nil_iff.1 present) rfl rfl
  rw [parent_ofDirectory] at joined
  rw [resolve_eq_ok_iff, Url.ofDirectoryPath?_eq hdirectory]
  exact .inr (.inr ⟨present, own, relative, _, Option.none_or, joined⟩)

/-- **A plain name stands for the file of that name.** -/
theorem file?_of_plain (hdirectory : isAbsolutePath directory) (relative : ¬ isAbsolutePath name) (present : name ≠ "")
    (dot : name ≠ ".") (dots : name ≠ "..") (plain : Url.PlainName name.toList) :
    file? directory name = some (Url.toFilePath?.close (rooted (below directory name))) := by
  obtain ⟨segments, decoded⟩ := Url.segment_of_plain plain (mt String.toList_eq_nil_iff.1 present)
    (fun h => dot (String.toList_inj.1 h)) (fun h => dots (String.toList_inj.1 h))
    fun segment member => Url.ne_empty_of_mem_segmentsOfPath member
  have list : Url.segmentsOf (Url.goOn (Url.ofDirectory directory) (Url.segmentsOfPath directory) name.toList) =
      Url.segmentsOfPath directory ++ [Percent.encode Percent.path name.toList] :=
    (Url.segmentsOf_goOn rfl plain.unmarked).trans segments
  have host : (Url.goOn (Url.ofDirectory directory) (Url.segmentsOfPath directory) name.toList).authority.bind
      (·.host) = none := by
    rw [Url.authority_goOn]
    rfl
  have path := Url.path?_of_segments rfl
    (Url.segments?_of_ne (list ▸ List.append_ne_nil_of_right_ne_nil _ (List.cons_ne_nil _ _))) host
  rw [file?_eq_some_iff]
  refine ⟨_, resolve_of_kept hdirectory relative present (Url.plainName_iff.1 plain).1, ?_⟩
  rw [plain.noDrive, if_neg Bool.false_ne_true, path, list, Url.decoded_append, Url.decoded_segmentsOfPath,
    Url.decoded_singleton, decoded, below_eq, rooted_append, rooted_singleton]

/-- **A name that stands for the file of that name is a plain one.** -/
theorem plain_of_file? (hdirectory : isAbsolutePath directory) (relative : ¬ isAbsolutePath name) (present : name ≠ "")
    (h : file? directory name = some file)
    (names : byteComponents file = below directory name) : Url.PlainName name.toList := by
  have whole := kept_of_length_le hdirectory relative h (Nat.le_of_eq (by rw [names]))
  obtain ⟨-, noScheme, unmarked⟩ := Url.kept_eq_self_iff.1 whole
  obtain ⟨url, resolved, path⟩ := file?_eq_some_iff.1 h
  rw [resolve_of_kept hdirectory relative present whole, Except.ok.injEq] at resolved
  subst resolved
  cases drive : UrlPath.isDrive name.toList with
  | true =>
    rw [drive, if_pos rfl] at path
    obtain ⟨letter, bar, colon⟩ := Url.components_of_drive whole drive path
    -- the last name ends in a bar and in a colon
    have last := congrArg List.getLast? (colon.symm.trans names)
    rw [below_eq, bar, List.getLast?_concat, List.getLast?_singleton, Option.some.injEq,
      Utf8.encodeChars_inj] at last
    exact absurd (List.cons.inj (List.cons.inj last).2).1 (by decide)
  | false =>
    refine Url.plainName_iff.2 ⟨whole, drive, fun escape => ?_⟩
    rw [drive, if_neg Bool.false_ne_true] at path
    have short := Url.length_components_le path
    have segment := Url.weight_segment_le (Url.segmentsOfPath directory) drive
    have decoded := Percent.length_decode_lt escape
    rw [Url.segmentsOf_goOn rfl unmarked] at short
    rw [Url.weight_segmentsOfPath] at segment
    rw [names, length_below] at short
    omega

theorem not_isAbsolutePath_of_no_slash (h : '/' ∉ name.toList) : ¬ isAbsolutePath name := by
  intro absolute
  rw [isAbsolutePath, decide_eq_true_iff] at absolute
  exact h (List.mem_of_mem_head? absolute)

theorem components_below (directory : String) (present : name ≠ "") (noSlash : '/' ∉ name.toList)
    (dot : name ≠ ".") :
    byteComponents (Url.toFilePath?.close (rooted (below directory name))) = below directory name := by
  rw [Url.byteComponents_close, below, ← pathComponents_below directory present noSlash dot]
  exact byteComponents_rooted fun bytes => of_mem_components

/-- **A file in a directory is named by its path, and by its name alone just if that is a plain one.** Nothing is put
behind the names unless the last one ends like a drive. -/
theorem file?_name_iff (hdirectory : isAbsolutePath directory) (present : name ≠ "") (noSlash : '/' ∉ name.toList)
    (dot : name ≠ ".") (dots : name ≠ "..") :
    ∃ file, file? directory (directory ++ "/" ++ name) = some file ∧
      byteComponents file = below directory name ∧
      (Url.endsWithDrive (rooted (below directory name)) = false → file = rooted (below directory name)) ∧
      (file? directory name = some file ↔ Url.PlainName name.toList) := by
  have relative := not_isAbsolutePath_of_no_slash noSlash
  have names := components_below directory present noSlash dot
  refine ⟨_, file?_path hdirectory present noSlash dot, names, fun plainEnd => ?_,
    fun h => plain_of_file? hdirectory relative present h names, file?_of_plain hdirectory relative present dot dots⟩
  rw [Url.toFilePath?.close, plainEnd, if_neg Bool.false_ne_true]

/-- A name with a blank inside is a plain one. -/
theorem file?_spaced :
    ∃ file, file? "/work" "/work/a b.csv" = some file ∧ file? "/work" "a b.csv" = some file ∧
      file = Utf8.encode "/work/a b.csv" := by
  have plain : Url.PlainName "a b.csv".toList := by decide
  have hdirectory : isAbsolutePath "/work" := by decide
  have present : "a b.csv" ≠ "" := by decide
  obtain ⟨file, path, -, text, alone⟩ := file?_name_iff hdirectory present (by decide) (by decide) (by decide)
  exact ⟨file, path, alone.2 plain, text rfl⟩

/-- What follows a number sign is cut off, and an escape is decoded: the name stands for another file then. -/
theorem file?_cut_off :
    file? "/work" "/work/a#b.txt" = some (Utf8.encode "/work/a#b.txt") ∧
      file? "/work" "a#b.txt" = some (Utf8.encode "/work/a") ∧
      Utf8.encode "/work/a" ≠ Utf8.encode "/work/a#b.txt" ∧
      file? "/work" "/work/a%20b.txt" = some (Utf8.encode "/work/a%20b.txt") ∧
      file? "/work" "a%20b.txt" = some (Utf8.encode "/work/a b.txt") ∧
      Utf8.encode "/work/a b.txt" ≠ Utf8.encode "/work/a%20b.txt" :=
  ⟨rfl, rfl, by decide, rfl, rfl, by decide⟩

end TypedImport.Specifier
