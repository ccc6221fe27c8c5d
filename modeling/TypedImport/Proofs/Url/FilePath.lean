import TypedImport.Proofs.Url.Percent
import TypedImport.Source.Fetch
import TypedImport.Url.FilePath

/-!
# Paths, to URLs and back

The URL of a path keeps the names of the path and nothing else: its file is a path of the same names
(`path?_ofSegments`), and URLs of paths have one text just if the paths have the same names (`text_ofSegments_inj`).
So a name may hold any character but the slash.

**The slash after a drive** is no name, and is not seen in the names of a path (`byteComponents_close`).
-/

namespace TypedImport

variable {path : String} {names : List Bytes} {file : Bytes} {url : Url}

/-- **The path of the file that a fetch reads**, if it comes to read one. -/
def Disk.path? (url : Url) : Option Bytes :=
  if url.scheme = "file" then url.toFilePath? else none

/-- A fetch reads the file of the path, on any disk. -/
theorem Disk.fetch_of_path (h : path? url = some file) (disk : Disk) :
    disk.fetch url = ((disk.read file).map fun bytes => ⟨bytes, none⟩).mapError DiskFault.failure := by
  by_cases scheme : url.scheme = "file"
  · rw [path?, if_pos scheme] at h
    rw [fetch, if_neg (not_not_intro scheme), h]
    cases content : disk.read file with
    | ok bytes => simp only [content]; rfl
    | error fault => simp only [content]; rfl
  · rw [path?, if_neg scheme] at h
    exact absurd h.symm (Option.some_ne_none file)

/-! ## The names of a path -/

theorem cutBytes_eq_splitOn (bytes : Bytes) : cutBytes bytes = bytes.splitOn 0x2f := by
  induction bytes with
  | nil => rfl
  | cons b rest ih =>
    rw [List.splitOn_cons_eq_if_modifyHead, cutBytes, ih]
    by_cases slash : b = 0x2f
    · rw [if_pos slash, if_pos (beq_iff_eq.2 slash)]
    · rw [if_neg slash, if_neg (mt beq_iff_eq.1 slash)]
      cases cut : rest.splitOn 0x2f with
      | nil => exact absurd cut (List.splitOn_ne_nil 0x2f rest)
      | cons name others => rfl

/-- Whether what stands between slashes is a name: it is neither empty nor a single dot. -/
def isName (name : Bytes) : Bool :=
  !name.isEmpty && name != [0x2e]

theorem byteComponents_eq (bytes : Bytes) : byteComponents bytes = (bytes.splitOn 0x2f).filter isName := by
  rw [byteComponents, cutBytes_eq_splitOn]
  rfl

theorem isName_encodeChars (name : List Char) : isName (Utf8.encodeChars name) = (!name.isEmpty && name != ['.']) := by
  have empty : (Utf8.encodeChars name).isEmpty = name.isEmpty := by
    rw [Bool.eq_iff_iff, List.isEmpty_iff, List.isEmpty_iff, Utf8.encodeChars_eq_nil_iff]
  have dot : (Utf8.encodeChars name == [0x2e]) = (name == ['.']) := by
    rw [Bool.eq_iff_iff, beq_iff_eq, beq_iff_eq]
    exact Utf8.encodeChars_inj (t := ['.'])
  rw [isName, bne, empty, dot, bne]

/-- **The names of a text are those of its bytes.** -/
theorem byteComponents_encodeChars (path : List Char) :
    byteComponents (Utf8.encodeChars path) = (pathComponents path).map Utf8.encodeChars := by
  have cut : (Utf8.encodeChars path).splitOn 0x2f = (path.splitOn '/').map Utf8.encodeChars :=
    Utf8.splitOn_encodeChars (a := '/') (by decide) path
  rw [byteComponents_eq, cut, pathComponents, Text.splitChars_eq_splitOn, List.filter_map]
  exact congrArg _ (List.filter_congr fun name _ => isName_encodeChars name)

/-- The bytes of a name in a path: a name without a slash in it. -/
theorem of_mem_components (h : file ∈ (pathComponents path.toList).map Utf8.encodeChars) :
    isName file = true ∧ 0x2f ∉ file := by
  rw [← byteComponents_encodeChars, byteComponents_eq, List.mem_filter] at h
  exact ⟨h.2, Text.not_mem_of_mem_splitOn h.1⟩

/-- A path of names: a slash before each. -/
def rooted (names : List Bytes) : Bytes :=
  names.flatMap (0x2f :: ·)

/-- **A path of names has just these names.** -/
theorem byteComponents_rooted (h : ∀ name ∈ names, isName name = true ∧ 0x2f ∉ name) :
    byteComponents (rooted names) = names := by
  rw [byteComponents_eq, rooted, Text.splitOn_flatMap_cons fun name member => (h name member).2,
    List.filter_cons_of_neg (by decide)]
  exact List.filter_eq_self.2 fun name member => (h name member).1

theorem rooted_append (names others : List Bytes) : rooted (names ++ others) = rooted names ++ rooted others :=
  List.flatMap_append

theorem rooted_singleton (name : Bytes) : rooted [name] = 0x2f :: name :=
  List.flatMap_singleton _ _

theorem byteComponents_append_slash (bytes : Bytes) : byteComponents (bytes ++ [0x2f]) = byteComponents bytes := by
  rw [byteComponents_eq, byteComponents_eq, List.splitOn_append_cons_self, List.splitOn_nil, List.filter_append,
    show [[]].filter isName = [] from rfl, List.append_nil]

namespace Url

/-- The slash after a drive adds no name. -/
theorem byteComponents_close (bytes : Bytes) : byteComponents (toFilePath?.close bytes) = byteComponents bytes := by
  rw [toFilePath?.close]
  split
  · exact byteComponents_append_slash bytes
  · rfl

/-! ## The URL of a path -/

theorem path?_of_segments {segments : List String} (scheme : url.scheme = "file") (h : url.segments? = some segments)
    (host : url.authority.bind (·.host) = none) :
    Disk.path? url = some (toFilePath?.close (toFilePath?.decoded segments)) := by
  rw [Disk.path?, if_pos scheme, toFilePath?, h, host]

theorem decoded_append (these those : List String) :
    toFilePath?.decoded (these ++ those) = toFilePath?.decoded these ++ toFilePath?.decoded those :=
  List.flatMap_append

theorem decoded_singleton (segment : String) :
    toFilePath?.decoded [segment] = 0x2f :: Percent.decode (Utf8.encode segment) :=
  List.flatMap_singleton _ _

theorem segments_ofSegments (segments : List String) :
    (ofSegments segments).segments? = some (if segments.isEmpty then [""] else segments) := by
  cases segments <;> rfl

theorem decoded_segmentsOfPath (path : String) :
    toFilePath?.decoded (segmentsOfPath path) = rooted ((pathComponents path.toList).map Utf8.encodeChars) := by
  simp only [toFilePath?.decoded, segmentsOfPath, rooted, List.flatMap_map, Percent.decode_encode_segment]

theorem ne_empty_of_mem_segmentsOfPath {segment : String} (h : segment ∈ segmentsOfPath path) : segment ≠ "" := by
  obtain ⟨name, member, rfl⟩ := List.mem_map.1 h
  intro empty
  have bytes := (of_mem_components (List.mem_map_of_mem member)).1
  rw [← Percent.decode_encode_segment, empty] at bytes
  exact absurd bytes (by decide)

/-- **The file of the URL of a path has the names of the path.** -/
theorem path?_ofSegments (path : String) :
    ∃ file, Disk.path? (ofSegments (segmentsOfPath path)) = some file ∧
      byteComponents file = (pathComponents path.toList).map Utf8.encodeChars := by
  refine ⟨_, path?_of_segments rfl (segments_ofSegments _) rfl, ?_⟩
  rw [byteComponents_close]
  split
  next empty =>
    -- the root: a slash, and no name
    rw [List.isEmpty_iff, segmentsOfPath, List.map_eq_nil_iff] at empty
    rw [empty]
    rfl
  next =>
    rw [decoded_segmentsOfPath]
    exact byteComponents_rooted fun name member => of_mem_components member

/-- Except for the root, it is the path of these names. -/
theorem path?_ofSegments_of_ne (h : pathComponents path.toList ≠ []) :
    Disk.path? (ofSegments (segmentsOfPath path)) =
      some (toFilePath?.close (rooted ((pathComponents path.toList).map Utf8.encodeChars))) := by
  have present : ¬ (segmentsOfPath path).isEmpty := by
    rw [List.isEmpty_iff, segmentsOfPath, List.map_eq_nil_iff]
    exact h
  rw [path?_of_segments rfl (segments_ofSegments _) rfl, if_neg present, decoded_segmentsOfPath]

/-- The URL of a directory: an empty segment behind those of its path. -/
def ofDirectory (path : String) : Url :=
  { bareFile with path := .segments (segmentsOfPath path ++ [""]) }

theorem ofDirectoryPath?_eq (h : isAbsolutePath path) : ofDirectoryPath? path = some (ofDirectory path) := by
  rw [ofDirectoryPath?, if_pos h, ofDirectory]
  cases segmentsOfPath path <;> rfl

/-! ## One text, one path -/

theorem text_ofSegments (segments : List String) :
    (ofSegments segments).text = "file://" ++ (ofSegments segments).path.text := by
  simp only [text, ofSegments, bareFile, Authority.text, Option.map_none, Option.getD_none, String.append_empty]
  rfl

/-- The text of segments without slashes is cut into them again. -/
theorem text_segments_inj {these those : List String} (h : ∀ segment ∈ these, '/' ∉ segment.toList)
    (h' : ∀ segment ∈ those, '/' ∉ segment.toList) :
    (UrlPath.segments these).text = (UrlPath.segments those).text ↔ these = those := by
  refine ⟨fun same => ?_, fun same => by rw [same]⟩
  have cut : ∀ {list : List String}, (∀ segment ∈ list, '/' ∉ segment.toList) →
      (UrlPath.segments list).text.toList.splitOn '/' = [] :: list.map String.toList := by
    intro list clean
    rw [UrlPath.text, String.toList_join, List.flatMap_map,
      ← Text.splitOn_flatMap_cons (List.forall_mem_map.2 clean), List.flatMap_map]
    exact congrArg (fun written => (list.flatMap written).splitOn '/') (funext fun segment => String.toList_append)
  have pieces := cut h
  rw [same, cut h', List.cons.injEq] at pieces
  exact ((List.map_inj_right fun _ _ => String.toList_inj.1).1 pieces.2).symm

theorem slash_not_mem_segmentsOfPath {path segment : String} (h : segment ∈ segmentsOfPath path) :
    '/' ∉ segment.toList := by
  obtain ⟨name, -, rfl⟩ := List.mem_map.1 h
  exact Percent.slash_not_mem_encode_segment name

/-- **URLs of paths have one text just if the paths have the same names.** -/
theorem text_ofSegments_inj {p q : String} :
    (ofSegments (segmentsOfPath p)).text = (ofSegments (segmentsOfPath q)).text ↔
      pathComponents p.toList = pathComponents q.toList := by
  refine ⟨fun same => ?_, fun same => by rw [segmentsOfPath, segmentsOfPath, same]⟩
  rw [text_ofSegments, text_ofSegments, String.append_right_inj] at same
  have clean : ∀ path : String, ∀ segment ∈ (if (segmentsOfPath path).isEmpty then [""] else segmentsOfPath path),
      '/' ∉ segment.toList := by
    intro path segment member
    split at member
    · rw [List.mem_singleton] at member
      exact member ▸ List.not_mem_nil
    · exact slash_not_mem_segmentsOfPath member
  have url : ofSegments (segmentsOfPath p) = ofSegments (segmentsOfPath q) := by
    rw [ofSegments, ofSegments, (text_segments_inj (clean p) (clean q)).1 same]
  obtain ⟨file, read, names⟩ := path?_ofSegments p
  obtain ⟨file', read', names'⟩ := path?_ofSegments q
  rw [url, read', Option.some.injEq] at read
  rw [← List.map_inj_right fun _ _ => Utf8.encodeChars_inj.1, ← names, ← names', read]

end Url

end TypedImport
