import TypedImport.Proofs.Text.Pieces
import TypedImport.Proofs.Text.Spelling
import TypedImport.Source.Media

/-!
# Content types as they are written

A content type is written as its media type with parameters behind it (`Written`): a semicolon before each, a name, an
equals sign and a value, which is plain or stands in quotes, and blanks wherever one likes. What is read of it is the
media type, and the charset of the first parameter that is named so, but a semicolon ends a parameter in quotes too.

**Faithful** parameters are those whose charset comes through (`Faithful`): the quoted values before it hide no other
charset behind a semicolon, and its own value has no semicolon. The proof is by induction on the parameters, from what
the pieces of one parameter give (`charsetIn_pieces`, `charsetIn_of_whole`, `charsetIn_of_cut`).
-/

namespace TypedImport.Media

/-! ## Writing -/

/-- A character of a name or of a plain value. -/
def isTokenChar (c : Char) : Bool :=
  !Text.isBlank c && c != ';' && c != '=' && c != '"'

/-- **A word without blanks and separators.** -/
structure Token where
  letters : List Char
  plain : letters.all isTokenChar = true

/-- **The value of a parameter**, plain or in quotes. -/
inductive Argument where
  | token (word : Token)
  | quoted (text : List Char) (unquoted : '"' ∉ text) (unescaped : '\\' ∉ text)

/-- What a value says. -/
def Argument.text : Argument → List Char
  | .token word => word.letters
  | .quoted text _ _ => text

def Argument.written : Argument → List Char
  | .token word => word.letters
  | .quoted text _ _ => '"' :: (text ++ ['"'])

structure Parameter where
  name : Token
  value : Argument

/-- **A text writes parameters**, each behind a semicolon, and with blanks around its name and its value. -/
inductive Writes : List Parameter → List Char → Prop
  | nil : Writes [] []
  | cons {p : Parameter} {params : List Parameter} {name value rest : List Char}
      (named : Text.Padded p.name.letters name) (valued : Text.Padded p.value.written value)
      (others : Writes params rest) : Writes (p :: params) (';' :: (name ++ '=' :: value) ++ rest)

/-- **A text writes a content type.** -/
def Written (media : String) (params : List Parameter) (text : String) : Prop :=
  ';' ∉ media.toList ∧ ∃ tail, Writes params tail ∧ text.toList = media.toList ++ tail

/-! ## What is to be read -/

namespace Parameter

/-- A parameter is the charset by its name, in any case. -/
def IsCharset (p : Parameter) : Prop :=
  p.name.letters.map Char.toLower = "charset".toList

instance (p : Parameter) : Decidable p.IsCharset :=
  inferInstanceAs (Decidable (_ = _))

def label? (p : Parameter) : Option String :=
  if p.IsCharset then some (Text.lower (String.ofList p.value.text)) else none

end Parameter

/-- **The charset of a content type**, by its first parameter that is named so. -/
def charsetOf (params : List Parameter) : Option String :=
  params.findSome? Parameter.label?

/-- The charset that the first piece names that names one. -/
def charsetIn (pieces : List (List Char)) : Option String :=
  pieces.findSome? fun piece => charset? (String.ofList piece)

/-- What lies behind the first semicolon of a text, cut at each one. -/
def behind (s : List Char) : List (List Char) :=
  (s.splitOn ';').tail

/-- The charset that a value seems to name behind a semicolon in its quotes. -/
def Parameter.hidden? (p : Parameter) : Option String :=
  charsetIn (behind p.value.written)

/-- **Parameters whose charset comes through.** -/
inductive Faithful : List Parameter → Prop
  | nil : Faithful []
  /-- The charset has no semicolon; -/
  | whole {p : Parameter} {params : List Parameter} (named : p.IsCharset) (uncut : ';' ∉ p.value.text) :
      Faithful (p :: params)
  /-- a parameter before it hides none, -/
  | clear {p : Parameter} {params : List Parameter} (other : ¬ p.IsCharset) (hidden : p.hidden? = none)
      (rest : Faithful params) : Faithful (p :: params)
  /-- or hides the same one, as it happens. -/
  | same {p : Parameter} {params : List Parameter} {label : String} (other : ¬ p.IsCharset)
      (hidden : p.hidden? = some label) (right : charsetOf params = some label) : Faithful (p :: params)

variable {c : Char} {s name value after : List Char} {p : Parameter} {params : List Parameter} {tail : List Char}
  {media text : String}

/-! ## Values -/

theorem dropWhile_quote (h : '"' ∉ s) : s.dropWhile (· = '"') = s := by
  cases s with
  | nil => rfl
  | cons c rest => exact List.dropWhile_cons_of_neg (by simpa using Ne.symm (List.ne_of_not_mem_cons h))

theorem unquote_of_not_mem (h : '"' ∉ s) : unquote s = s := by
  rw [unquote, dropWhile_quote h, dropWhile_quote (mt List.mem_reverse.1 h), List.reverse_reverse]

/-- **Taking the quotes off** gives what stands in them. -/
theorem unquote_quoted (h : '"' ∉ s) : unquote ('"' :: (s ++ ['"'])) = s := by
  cases s with
  | nil => rfl
  | cons c rest =>
    have first : ('"' :: (c :: rest ++ ['"'])).dropWhile (· = '"') = c :: rest ++ ['"'] := by
      rw [List.dropWhile_cons_of_pos (by decide)]
      exact List.dropWhile_cons_of_neg (by simpa using Ne.symm (List.ne_of_not_mem_cons h))
    rw [unquote, first, List.reverse_append, List.reverse_singleton, List.singleton_append,
      List.dropWhile_cons_of_pos (by decide), dropWhile_quote (mt List.mem_reverse.1 h), List.reverse_reverse]

theorem mem_of_mem_unquote (h : c ∈ unquote s) : c ∈ s := by
  have inner := (List.dropWhile_sublist _).subset (List.mem_reverse.1 h)
  exact (List.dropWhile_sublist _).subset (List.mem_reverse.1 inner)

theorem of_isTokenChar (h : isTokenChar c = true) : Text.isBlank c = false ∧ c ≠ ';' ∧ c ≠ '=' ∧ c ≠ '"' := by
  simpa [isTokenChar, and_assoc] using h

theorem Token.trimChars_letters (word : Token) : Text.trimChars word.letters = word.letters :=
  Text.trimChars_of_solid fun c hc => (of_isTokenChar (List.all_eq_true.1 word.plain c hc)).1

theorem Argument.trimChars_written (a : Argument) : Text.trimChars a.written = a.written := by
  cases a with
  | token word => exact word.trimChars_letters
  | quoted text _ _ =>
    refine Text.trimChars_of_ends (fun c head => ?_) (fun c last => ?_)
    · cases head
      decide
    · rw [written, ← List.cons_append, List.getLast?_concat] at last
      cases last
      decide

theorem Argument.unquote_written (a : Argument) : unquote a.written = a.text := by
  cases a with
  | token word => exact unquote_of_not_mem fun h => (of_isTokenChar (List.all_eq_true.1 word.plain _ h)).2.2.2 rfl
  | quoted text unquoted _ => exact unquote_quoted unquoted

theorem Argument.semicolon_mem_written_iff (a : Argument) : ';' ∈ a.written ↔ ';' ∈ a.text := by
  cases a with
  | token word => exact Iff.rfl
  | quoted text _ _ => simp [written, Argument.text]

/-- A label has a semicolon if its text has one. -/
theorem semicolon_mem_lower_iff : ';' ∈ (Text.lower (String.ofList s)).toList ↔ ';' ∈ s := by
  rw [Text.lower, String.toList_ofList, String.toList_ofList, List.mem_map]
  constructor
  · rintro ⟨c, hc, lowered⟩
    have number := Text.toNat_toLower c
    rw [lowered] at number
    have same : c = ';' := by
      refine Char.toNat_inj.1 ?_
      have semicolon : (';').toNat = 59 := rfl
      split at number <;> omega
    exact same ▸ hc
  · exact fun h => ⟨';', h, rfl⟩

/-! ## Pieces -/

/-- **What a piece names**, if it has an equals sign. -/
theorem charset?_of_cut (h : '=' ∉ name) (value : List Char) :
    charset? (String.ofList (name ++ '=' :: value)) =
      if (Text.trimChars name).map Char.toLower = "charset".toList
      then some (Text.lower (String.ofList (unquote (Text.trimChars value)))) else none := by
  have named : Text.sameLetters (Text.trim (String.ofList name)) "charset" = true ↔
      (Text.trimChars name).map Char.toLower = "charset".toList := by
    rw [Text.sameLetters, beq_iff_eq, ← String.toList_inj]
    simp only [Text.lower, Text.trim, String.toList_ofList]
    rfl
  rw [charset?, String.toList_ofList, Text.cutFirst_append_cons h]
  simp only [named]

/-- Blanks behind a piece do not count. -/
theorem charset?_append_blank (blank : ∀ c ∈ after, Text.isBlank c = true) (piece : List Char) :
    charset? (String.ofList (piece ++ after)) = charset? (String.ofList piece) := by
  by_cases cut : '=' ∈ piece
  · obtain ⟨name, value, rfl, first⟩ := List.eq_append_cons_of_mem cut
    rw [List.append_assoc, List.cons_append, charset?_of_cut first, charset?_of_cut first,
      Text.trimChars_append_blank _ blank]
  · have uncut : '=' ∉ piece ++ after := by
      rw [List.mem_append, not_or]
      exact ⟨cut, fun h => absurd (blank _ h) (by decide)⟩
    rw [charset?, charset?, String.toList_ofList, String.toList_ofList, Text.cutFirst_of_not_mem cut,
      Text.cutFirst_of_not_mem uncut]

theorem charsetIn_cons (piece : List Char) (pieces : List (List Char)) :
    charsetIn (piece :: pieces) = (charset? (String.ofList piece)).or (charsetIn pieces) := by
  rw [charsetIn, List.findSome?_cons]
  cases charset? (String.ofList piece) <;> rfl

theorem charsetIn_append (pieces others : List (List Char)) :
    charsetIn (pieces ++ others) = (charsetIn pieces).or (charsetIn others) :=
  List.findSome?_append

/-- What is hidden in a value does not change with blanks around it. -/
theorem charsetIn_behind_of_padded {inner outer : List Char} (padded : Text.Padded inner outer) :
    charsetIn (behind outer) = charsetIn (behind inner) := by
  obtain ⟨front, back, hfront, hback, rfl⟩ := padded
  have clear : ';' ∉ front := Text.not_mem_of_blank (by decide) hfront
  have clear' : ';' ∉ back := Text.not_mem_of_blank (by decide) hback
  obtain ⟨pieces, last, before, after⟩ := Text.exists_splitOn_append inner clear'
  rw [behind, behind, List.append_assoc, Text.splitOn_append_of_not_mem clear, List.tail_modifyHead, before, after]
  cases pieces with
  | nil => rfl
  | cons first pieces =>
    show charsetIn (pieces ++ [last ++ back]) = charsetIn (pieces ++ [last])
    rw [charsetIn_append, charsetIn_append, charsetIn_cons, charsetIn_cons, charset?_append_blank hback]

/-! ## One parameter -/

/-- **The pieces of a parameter** are its own beginning, up to a semicolon in its value, and what lies behind that. -/
theorem charsetIn_pieces (named : Text.Padded p.name.letters name) (valued : Text.Padded p.value.written value) :
    ∃ first, (';' ∉ value → first = value) ∧ ';' ∉ first ∧
      charsetIn ((name ++ '=' :: value).splitOn ';') =
        if p.IsCharset then some (Text.lower (String.ofList (unquote (Text.trimChars first)))) else p.hidden? := by
  have uncut : ∀ sep, Text.isBlank sep = false → isTokenChar sep = false → sep ∉ name := by
    intro sep visible separates
    refine named.not_mem visible fun h => ?_
    rw [List.all_eq_true.1 p.name.plain sep h] at separates
    cases separates
  have unsplit : ';' ∉ name ++ ['='] := by
    simpa using uncut ';' (by decide) (by decide)
  cases pieces : value.splitOn ';' with
  | nil => exact absurd pieces (List.splitOn_ne_nil _ _)
  | cons first rest =>
    have hidden : p.hidden? = charsetIn rest := by
      rw [Parameter.hidden?, ← charsetIn_behind_of_padded valued, behind, pieces, List.tail_cons]
    refine ⟨first, fun whole => ?_, Text.not_mem_of_mem_splitOn (pieces ▸ List.mem_cons_self), ?_⟩
    · rw [List.splitOn_eq_singleton whole] at pieces
      exact (List.cons.inj pieces).1.symm
    · rw [List.append_cons, Text.splitOn_append_of_not_mem unsplit, pieces, List.modifyHead_cons, ← List.append_cons,
        charsetIn_cons, charset?_of_cut (uncut '=' (by decide) (by decide)),
        Text.trimChars_of_padded named p.name.trimChars_letters, hidden]
      show (if p.IsCharset then _ else none).or _ = _
      by_cases isCharset : p.IsCharset
      · rw [if_pos isCharset, if_pos isCharset, Option.some_or]
      · rw [if_neg isCharset, if_neg isCharset, Option.none_or]

theorem charsetIn_of_whole (named : Text.Padded p.name.letters name) (valued : Text.Padded p.value.written value)
    (isCharset : p.IsCharset) (whole : ';' ∉ p.value.text) :
    charsetIn ((name ++ '=' :: value).splitOn ';') = p.label? := by
  obtain ⟨first, all, -, read⟩ := charsetIn_pieces named valued
  have unsplit : ';' ∉ value := valued.not_mem (by decide) (mt p.value.semicolon_mem_written_iff.1 whole)
  rw [read, if_pos isCharset, Parameter.label?, if_pos isCharset, all unsplit,
    Text.trimChars_of_padded valued p.value.trimChars_written, p.value.unquote_written]

/-- **A charset with a semicolon is cut off**, and another one is read. -/
theorem charsetIn_of_cut (named : Text.Padded p.name.letters name) (valued : Text.Padded p.value.written value)
    (isCharset : p.IsCharset) (cut : ';' ∈ p.value.text) :
    ∃ label, charsetIn ((name ++ '=' :: value).splitOn ';') = some label ∧ p.label? ≠ some label := by
  obtain ⟨first, -, clean, read⟩ := charsetIn_pieces named valued
  refine ⟨_, read.trans (if_pos isCharset), fun same => ?_⟩
  rw [Parameter.label?, if_pos isCharset, Option.some.injEq] at same
  have inside := semicolon_mem_lower_iff.2 cut
  rw [same, semicolon_mem_lower_iff] at inside
  exact clean ((Text.trimChars_sublist first).subset (mem_of_mem_unquote inside))

/-! ## All parameters -/

theorem charsetOf_cons (p : Parameter) (params : List Parameter) :
    charsetOf (p :: params) = p.label?.or (charsetOf params) := by
  rw [charsetOf, List.findSome?_cons]
  cases p.label? <;> rfl

/-- Parameters begin where the text before them ends. -/
theorem Writes.splitOn_append (h : Writes params tail) (front : List Char) :
    (front ++ tail).splitOn ';' = front.splitOn ';' ++ behind tail := by
  cases h with
  | nil => rw [behind, List.append_nil, List.splitOn_nil, List.tail_cons, List.append_nil]
  | cons named valued others =>
    rw [behind, List.cons_append, List.splitOn_append_cons_self, List.splitOn_cons_eq_if_modifyHead, if_pos BEq.rfl,
      List.tail_cons]

theorem faithful_cons_of_named (isCharset : p.IsCharset) : Faithful (p :: params) ↔ ';' ∉ p.value.text := by
  constructor
  · intro faithful
    cases faithful with
    | whole _ uncut => exact uncut
    | clear other => exact absurd isCharset other
    | same other => exact absurd isCharset other
  · exact .whole isCharset

theorem faithful_cons_of_clear (other : ¬ p.IsCharset) (clear : p.hidden? = none) :
    Faithful (p :: params) ↔ Faithful params := by
  constructor
  · intro faithful
    cases faithful with
    | whole named => exact absurd named other
    | clear _ _ rest => exact rest
    | same _ hidden =>
      rw [clear] at hidden
      cases hidden
  · exact .clear other clear

theorem faithful_cons_of_hidden {label : String} (other : ¬ p.IsCharset) (hidden : p.hidden? = some label) :
    Faithful (p :: params) ↔ charsetOf params = some label := by
  constructor
  · intro faithful
    cases faithful with
    | whole named => exact absurd named other
    | clear _ clear =>
      rw [hidden] at clear
      cases clear
    | same _ hidden' right =>
      rw [hidden] at hidden'
      rw [right, hidden']
  · exact .same other hidden

/-- **The charset is read just when the parameters are faithful.** -/
theorem Writes.charsetIn_iff (h : Writes params tail) :
    charsetIn (behind tail) = charsetOf params ↔ Faithful params := by
  induction h with
  | nil => exact iff_of_true rfl .nil
  | @cons p params name value rest named valued others ih =>
    have read : charsetIn (behind (';' :: (name ++ '=' :: value) ++ rest)) =
        (charsetIn ((name ++ '=' :: value).splitOn ';')).or (charsetIn (behind rest)) := by
      rw [behind, List.cons_append, List.splitOn_cons_eq_if_modifyHead, if_pos BEq.rfl, List.tail_cons,
        others.splitOn_append, charsetIn_append]
    rw [read, charsetOf_cons]
    by_cases isCharset : p.IsCharset
    · have label : p.label? = some (Text.lower (String.ofList p.value.text)) := if_pos isCharset
      rw [faithful_cons_of_named isCharset]
      by_cases cut : ';' ∈ p.value.text
      · obtain ⟨other, cutOff, wrong⟩ := charsetIn_of_cut named valued isCharset cut
        rw [cutOff, Option.some_or]
        refine iff_of_false (fun same => wrong ?_) (not_not.2 cut)
        rw [label, Option.some_or] at same
        rw [label, same]
      · rw [charsetIn_of_whole named valued isCharset cut, label, Option.some_or, Option.some_or]
        exact iff_of_true rfl cut
    · obtain ⟨first, -, -, piece⟩ := charsetIn_pieces named valued
      rw [piece, if_neg isCharset, Parameter.label?, if_neg isCharset, Option.none_or]
      cases hidden : p.hidden? with
      | none => rw [Option.none_or, faithful_cons_of_clear isCharset hidden, ih]
      | some label => rw [Option.some_or, faithful_cons_of_hidden isCharset hidden, eq_comm]

/-- What is read of a text that writes a content type. -/
theorem readContentType_of_writes (unsplit : ';' ∉ media.toList) (h : Writes params tail)
    (written : text.toList = media.toList ++ tail) :
    readContentType text = (Text.lower (Text.trim media), charsetIn (behind tail)) := by
  have pieces : Text.splitOn ';' text = media :: (behind tail).map String.ofList := by
    rw [Text.splitOn_eq, Text.splitChars_eq_splitOn, written, h.splitOn_append, List.splitOn_eq_singleton unsplit,
      List.singleton_append, List.map_cons, String.ofList_toList]
  rw [readContentType, pieces]
  show (_, ((behind tail).map String.ofList).findSome? charset?) = _
  rw [List.findSome?_map]
  rfl

theorem Written.media_eq (h : Written media params text) : (readContentType text).1 = Text.lower (Text.trim media) := by
  obtain ⟨unsplit, tail, writes, written⟩ := h
  rw [readContentType_of_writes unsplit writes written]

theorem Written.charset_eq_iff (h : Written media params text) :
    (readContentType text).2 = charsetOf params ↔ Faithful params := by
  obtain ⟨unsplit, tail, writes, written⟩ := h
  rw [readContentType_of_writes unsplit writes written]
  exact writes.charsetIn_iff

/-- Values without a semicolon hide nothing. -/
theorem faithful_of_uncut (uncut : ∀ p ∈ params, ';' ∉ p.value.text) : Faithful params := by
  induction params with
  | nil => exact .nil
  | cons p params ih =>
    obtain ⟨first, others⟩ := List.forall_mem_cons.1 uncut
    by_cases isCharset : p.IsCharset
    · exact .whole isCharset first
    · refine .clear isCharset ?_ (ih others)
      rw [Parameter.hidden?, behind, List.splitOn_eq_singleton (mt p.value.semicolon_mem_written_iff.1 first)]
      rfl

/-- **A content type is read as it was written** just when its parameters are faithful, which they are without a
semicolon in their values; the media type is read in any case. -/
theorem readContentType_written (h : Written media params text) :
    (readContentType text).1 = Text.lower (Text.trim media) ∧
      ((readContentType text).2 = charsetOf params ↔ Faithful params) ∧
      ((∀ p ∈ params, ';' ∉ p.value.text) → Faithful params) :=
  ⟨h.media_eq, h.charset_eq_iff, faithful_of_uncut⟩

/-- A title with a semicolon that hides nothing, before two charsets. -/
def harmless : List Parameter :=
  [⟨⟨"title".toList, by decide⟩, .quoted "a;b=c".toList (by decide) (by decide)⟩,
   ⟨⟨"Charset".toList, by decide⟩, .quoted " UTF-8".toList (by decide) (by decide)⟩,
   ⟨⟨"charset".toList, by decide⟩, .token ⟨"latin1".toList, by decide⟩⟩]

/-- The first charset is read, as it stands in its quotes. -/
theorem readContentType_harmless :
    Written "Text/CSV " harmless "Text/CSV ; title=\"a;b=c\" ;Charset = \" UTF-8\" ; charset=latin1" ∧
      readContentType "Text/CSV ; title=\"a;b=c\" ;Charset = \" UTF-8\" ; charset=latin1" =
        ("text/csv", some " utf-8") := by
  have written : Written "Text/CSV " harmless
      "Text/CSV ; title=\"a;b=c\" ;Charset = \" UTF-8\" ; charset=latin1" := by
    refine ⟨by decide, _, .cons (.between [' '] [] rfl rfl _) (.between [] [' '] rfl rfl _)
      (.cons (.between [] [' '] rfl rfl _) (.between [' '] [' '] rfl rfl _)
        (.cons (.between [' '] [] rfl rfl _) (.refl _) .nil)), by decide⟩
  have faithful : Faithful harmless := .clear (by decide) (by decide) (.whole (by decide) (by decide))
  obtain ⟨media, charset, -⟩ := readContentType_written written
  exact ⟨written, Prod.ext (media.trans (by decide)) ((charset.2 faithful).trans (by decide))⟩

/-- A title that names a charset behind a semicolon. -/
def misleadingTitle : Parameter :=
  ⟨⟨"title".toList, by decide⟩, .quoted "a;charset=latin1".toList (by decide) (by decide)⟩

def misleading : List Parameter :=
  [misleadingTitle, ⟨⟨"charset".toList, by decide⟩, .token ⟨"utf-8".toList, by decide⟩⟩]

/-- **The charset that a title names is read**, and not the one of the content type. -/
theorem readContentType_misleading :
    Written "text/plain" misleading "text/plain; title=\"a;charset=latin1\"; charset=utf-8" ∧
      charsetOf misleading = some "utf-8" ∧
      readContentType "text/plain; title=\"a;charset=latin1\"; charset=utf-8" = ("text/plain", some "latin1") := by
  refine ⟨⟨by decide, _, .cons (.between [' '] [] rfl rfl _) (.refl _)
    (.cons (.between [' '] [] rfl rfl _) (.refl _) .nil), by decide⟩, by decide, by decide⟩

end TypedImport.Media
