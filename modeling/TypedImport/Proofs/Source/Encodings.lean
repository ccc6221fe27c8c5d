import TypedImport.Proofs.Source.ContentTypes
import TypedImport.Source.Retry

/-!
# The encoding of a loaded asset

An asset is read as one name says: the label that the import asks for, or else the charset that came with the asset, or
else UTF-8 for text and plain bytes for all else (`Naming.chosen`). A name has one canonical encoding, whatever its case
and the blanks around it are (`Encoding.canonical`), and that is the encoding of the asset.

**Plain bytes** are the exception. They are seen only in a label that is asked for, and only without blanks around it.
Elsewhere the word is taken for a text encoding of that name (`Naming.Overlooks`).
-/

namespace TypedImport

/-- **The encoding that a name stands for.** -/
def Encoding.canonical (name : String) : Encoding :=
  if Text.lower (Text.trim name) = "blob" then .blob else .text (Text.lower (Text.trim name))

namespace Asset

/-- **What names the encoding of an asset**: its url, the label that is asked for, and the content type that came with
its bytes. -/
structure Naming where
  url : Url
  requested : Option String
  contentType : Option String

namespace Naming

def media (n : Naming) : String :=
  (mediaOf n.url n.contentType).1

def charset (n : Naming) : Option String :=
  (mediaOf n.url n.contentType).2

/-- **The name that counts.** -/
def chosen (n : Naming) : String :=
  (n.requested <|> n.charset).getD (if Media.isTextual n.media then "utf-8" else "blob")

/-- The encoding that is chosen. -/
def encoding (n : Naming) : Encoding :=
  chooseEncoding n.requested n.charset n.media

/-- **A name for plain bytes that is overlooked**: -/
inductive Overlooks (n : Naming) : Prop
  /-- a label with blanks around it, -/
  | label {label : String} (asked : n.requested = some label) (blob : Text.lower (Text.trim label) = "blob")
      (padded : Text.lower label ≠ "blob")
  /-- or any charset. -/
  | charset {charset : String} (unasked : n.requested = none) (came : n.charset = some charset)
      (blob : Text.lower (Text.trim charset) = "blob")

/-- **An encoding is the canonical one of the chosen name** unless plain bytes are overlooked; then it is text that is
called so. -/
structure Names (n : Naming) (encoding : Encoding) : Prop where
  canonical : encoding = .canonical n.chosen ↔ ¬ n.Overlooks
  mistaken : encoding = .text "blob" ↔ n.Overlooks

end Naming

/-- **An asset was loaded** under a naming, by some series of fetches. -/
def Loaded (n : Naming) (asset : Asset) : Prop :=
  ∃ config native type fetch bytes,
    (Retry.run config n.url.text type fetch 0).result = .ok ⟨bytes, n.contentType⟩ ∧
      (load config native n.url type n.requested fetch).1 = .ok asset

variable {n n' : Naming} {asset asset' : Asset} {encoding encoding' : Encoding} {name other : String}

/-! ## Names -/

theorem canonical_congr (same : Text.lower (Text.trim name) = Text.lower (Text.trim other)) :
    Encoding.canonical name = .canonical other := by
  rw [Encoding.canonical, Encoding.canonical, same]

/-- No name stands for text that is called like plain bytes. -/
theorem canonical_ne : Encoding.canonical name ≠ .text "blob" := by
  unfold Encoding.canonical
  split
  next => exact Encoding.noConfusion
  next other => exact fun same => other (Encoding.text.inj same)

theorem Naming.chosen_of_requested {label : String} (asked : n.requested = some label) : n.chosen = label := by
  rw [chosen, asked]
  rfl

theorem Naming.chosen_of_charset {charset : String} (unasked : n.requested = none) (came : n.charset = some charset) :
    n.chosen = charset := by
  rw [chosen, unasked, came]
  rfl

theorem Naming.Overlooks.chosen_eq (h : n.Overlooks) : Text.lower (Text.trim n.chosen) = "blob" := by
  cases h with
  | label asked blob => rwa [chosen_of_requested asked]
  | charset unasked came blob => rwa [chosen_of_charset unasked came]

/-- **Text of the chosen name** is right, unless it is called like plain bytes. -/
theorem Naming.names_of_text (read : n.encoding = .ofLabel n.chosen)
    (overlooked : Text.lower (Text.trim n.chosen) = "blob" → n.Overlooks) : n.Names n.encoding := by
  rw [read]
  by_cases blob : Text.lower (Text.trim n.chosen) = "blob"
  · rw [Encoding.ofLabel, blob]
    exact ⟨iff_of_false canonical_ne.symm (not_not.2 (overlooked blob)), iff_of_true rfl (overlooked blob)⟩
  · have seen : ¬ n.Overlooks := fun h => blob h.chosen_eq
    have other : Encoding.ofLabel n.chosen ≠ .text "blob" := fun same => blob (Encoding.text.inj same)
    exact ⟨iff_of_true (if_neg blob).symm seen, iff_of_false other seen⟩

theorem Naming.names_of_blob (read : n.encoding = .blob) (blob : Text.lower (Text.trim n.chosen) = "blob")
    (seen : ¬ n.Overlooks) : n.Names n.encoding := by
  rw [read]
  exact ⟨iff_of_true (if_pos blob).symm seen, iff_of_false Encoding.noConfusion seen⟩

/-- **A label that is asked for** is seen to be for plain bytes if nothing stands around it. -/
theorem Naming.names_of_requested {label : String} (asked : n.requested = some label) : n.Names n.encoding := by
  have chosen := chosen_of_requested asked
  by_cases seen : Text.lower label = "blob"
  · refine names_of_blob ?_ ?_ fun h => ?_
    · rw [Naming.encoding, asked]
      exact if_pos (beq_iff_eq.2 seen)
    · rw [chosen, ← Text.trim_lower, seen]
      decide
    · cases h with
      | label asked' _ padded =>
        rw [asked, Option.some.injEq] at asked'
        exact padded (asked' ▸ seen)
      | charset unasked =>
        rw [asked] at unasked
        cases unasked
  · refine names_of_text ?_ fun blob => .label asked (chosen ▸ blob) seen
    rw [Naming.encoding, asked, chosen]
    exact if_neg (mt beq_iff_eq.1 seen)

theorem Naming.names_of_charset {charset : String} (unasked : n.requested = none) (came : n.charset = some charset) :
    n.Names n.encoding := by
  have chosen := chosen_of_charset unasked came
  refine names_of_text ?_ fun blob => .charset unasked came (chosen ▸ blob)
  rw [Naming.encoding, unasked, came, chosen]
  rfl

theorem Naming.names_of_media (unasked : n.requested = none) (none : n.charset = none) : n.Names n.encoding := by
  have chosen : n.chosen = if Media.isTextual n.media then "utf-8" else "blob" := by
    rw [Naming.chosen, unasked, none]
    rfl
  have seen : ¬ n.Overlooks := by
    intro h
    cases h with
    | label asked =>
      rw [unasked] at asked
      cases asked
    | charset _ came =>
      rw [none] at came
      cases came
  by_cases textual : Media.isTextual n.media = true
  · rw [if_pos textual] at chosen
    refine names_of_text ?_ fun blob => ?_
    · rw [Naming.encoding, unasked, none, chosen]
      exact if_pos textual
    · rw [chosen] at blob
      exact absurd blob (by decide)
  · rw [if_neg textual] at chosen
    refine names_of_blob ?_ ?_ seen
    · rw [Naming.encoding, unasked, none]
      exact if_neg textual
    · rw [chosen]
      decide

/-- **Every naming names the encoding that is chosen under it.** -/
theorem Naming.names_encoding (n : Naming) : n.Names n.encoding := by
  cases asked : n.requested with
  | some label => exact names_of_requested asked
  | none =>
    cases came : n.charset with
    | some charset => exact names_of_charset asked came
    | none => exact names_of_media asked came

/-- **Names of one spelling** have one encoding, if plain bytes are overlooked in both or in neither. -/
theorem Naming.Names.eq_iff (h : n.Names encoding) (h' : n'.Names encoding')
    (same : Text.lower (Text.trim n.chosen) = Text.lower (Text.trim n'.chosen)) :
    encoding = encoding' ↔ (n.Overlooks ↔ n'.Overlooks) := by
  constructor
  · rintro rfl
    exact h.mistaken.symm.trans h'.mistaken
  · intro both
    by_cases overlooks : n.Overlooks
    · rw [h.mistaken.2 overlooks, h'.mistaken.2 (both.1 overlooks)]
    · rw [h.canonical.2 overlooks, h'.canonical.2 (mt both.2 overlooks), canonical_congr same]

/-! ## Loadings -/

theorem load_of_fetched {config : Config} {native : NativeMemo} {url : Url} {type : String} {requested : Option String}
    {fetch : Nat → Except FetchFailure Fetched} {fetched : Fetched}
    (h : (Retry.run config url.text type fetch 0).result = .ok fetched) :
    (load config native url type requested fetch).1 = .ok (ofFetched native url type requested fetched).1 := by
  rw [load]
  simp only [h]

/-- **Whatever is fetched is loaded.** -/
theorem loaded_ofFetched (config : Config) (native : NativeMemo) (type : String) (n : Naming) (bytes : Bytes) :
    Loaded n (ofFetched native n.url type n.requested ⟨bytes, n.contentType⟩).1 := by
  have fetched : (Retry.run config n.url.text type (fun _ => .ok ⟨bytes, n.contentType⟩) 0).result =
      .ok ⟨bytes, n.contentType⟩ := by
    rw [Retry.run]
  exact ⟨config, native, type, _, bytes, fetched, load_of_fetched fetched⟩

theorem Loaded.names (h : Loaded n asset) : n.Names asset.encoding := by
  obtain ⟨config, native, type, fetch, bytes, fetched, loaded⟩ := h
  rw [load_of_fetched fetched] at loaded
  rw [← Except.ok.inj loaded]
  exact n.names_encoding

theorem Naming.charset_eq_iff {media text : String} {params : List Media.Parameter} (came : n.contentType = some text)
    (written : Media.Written media params text) : n.charset = Media.charsetOf params ↔ Media.Faithful params := by
  rw [charset, came]
  exact written.charset_eq_iff

/-- **An asset has the canonical encoding of the chosen name** unless plain bytes are overlooked, so that names of one
spelling give one encoding; and the charset that may be chosen is the one that the content type was written with, if its
parameters are faithful. -/
theorem encoding_canonical (loaded : Loaded n asset) (loaded' : Loaded n' asset') :
    n.Names asset.encoding ∧
      (Text.lower (Text.trim n.chosen) = Text.lower (Text.trim n'.chosen) →
        (asset.encoding = asset'.encoding ↔ (n.Overlooks ↔ n'.Overlooks))) ∧
      ∀ media params text, n.contentType = some text → Media.Written media params text →
        (n.charset = Media.charsetOf params ↔ Media.Faithful params) :=
  ⟨loaded.names, loaded.names.eq_iff loaded'.names, fun _ _ _ => Naming.charset_eq_iff⟩

/-- The naming of a sheet in memory. -/
def sheet (requested contentType : Option String) : Naming where
  url := { scheme := "mem", authority := some {}, path := .segments ["sheet.csv"] }
  requested := requested
  contentType := contentType

/-- A sheet, as it is loaded for a host without handlers. -/
def loadedSheet (requested contentType : Option String) : Asset :=
  let n := sheet requested contentType
  (ofFetched { host := ⟨fun _ _ => false, fun _ => none⟩ } n.url "csv" n.requested ⟨[0x31], n.contentType⟩).1

theorem loaded_sheet (requested contentType : Option String) :
    Loaded (sheet requested contentType) (loadedSheet requested contentType) :=
  loaded_ofFetched { policy := .registryOnly } _ _ _ _

/-- A label that is asked for counts more than a charset, and may name what text is read as without either. -/
theorem encoding_sheet :
    Loaded (sheet (some " UTF-8") (some "image/png; charset=latin1"))
        (loadedSheet (some " UTF-8") (some "image/png; charset=latin1")) ∧
      Loaded (sheet none none) (loadedSheet none none) ∧
      (loadedSheet (some " UTF-8") (some "image/png; charset=latin1")).encoding = (loadedSheet none none).encoding := by
  have labelled := loaded_sheet (some " UTF-8") (some "image/png; charset=latin1")
  have plain := loaded_sheet none none
  obtain ⟨-, same, -⟩ := encoding_canonical labelled plain
  have seen : ¬ (sheet (some " UTF-8") (some "image/png; charset=latin1")).Overlooks :=
    fun h => absurd h.chosen_eq (by decide)
  have seen' : ¬ (sheet none none).Overlooks := fun h => absurd h.chosen_eq (by decide)
  exact ⟨labelled, plain, (same (by decide)).2 (iff_of_false seen seen')⟩

/-- A content type without a charset, but with one in its title. -/
def titledType : String :=
  "text/csv; title=\"a;charset=latin1\""

/-- **Plain bytes are overlooked** in a label with blanks around it and in a charset, and a charset is read that stands
in a title. -/
theorem encoding_overlooked :
    (Loaded (sheet (some " blob ") none) (loadedSheet (some " blob ") none) ∧
        (loadedSheet (some " blob ") none).encoding = .text "blob" ∧ Encoding.canonical " blob " = .blob) ∧
      (Loaded (sheet none (some "text/csv; charset=blob")) (loadedSheet none (some "text/csv; charset=blob")) ∧
        (loadedSheet none (some "text/csv; charset=blob")).encoding = .text "blob") ∧
      Media.Written "text/csv" [Media.misleadingTitle] titledType ∧ Media.charsetOf [Media.misleadingTitle] = none ∧
      Loaded (sheet none (some titledType)) (loadedSheet none (some titledType)) ∧
      (loadedSheet none (some titledType)).encoding = .text "latin1" := by
  have written : Media.Written "text/csv" [Media.misleadingTitle] titledType :=
    ⟨by decide, _, .cons (.between [' '] [] rfl rfl _) (.refl _) .nil, by decide⟩
  exact ⟨⟨loaded_sheet _ _, by decide, by decide⟩, ⟨loaded_sheet _ _, by decide⟩, written, by decide,
    loaded_sheet _ _, by decide⟩

end Asset

end TypedImport
