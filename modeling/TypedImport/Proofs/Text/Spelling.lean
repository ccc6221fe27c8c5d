import TypedImport.Number.Numeral
import TypedImport.Proofs.Import.Checks

/-!
# Spellings of names and numbers

What a person writes for a name or a number, told without the functions that read it. A name may be written
in any case, with blanks around it and with one character in the place of another (`Text.Spells`); a number
has decimal digits, with a plus before them and blanks around all of it if one likes (`Number.Spells`).

**Agreement.** Folding a text and comparing it with the name decides the first (`fold_eq_iff`), and reading a
numeral below a limit decides the second (`natBelow?_eq_some_iff`). The usual digits of a number spell it.
-/

namespace TypedImport

namespace Text

variable {s inner text : List Char}

/-- **A text is something with blanks around it.** -/
def Padded (inner text : List Char) : Prop :=
  ∃ before after, (∀ c ∈ before, isBlank c = true) ∧ (∀ c ∈ after, isBlank c = true) ∧
    text = before ++ inner ++ after

theorem Padded.between (before after : List Char) (hbefore : before.all isBlank = true)
    (hafter : after.all isBlank = true) (s : List Char) : Padded s (before ++ s ++ after) :=
  ⟨before, after, List.all_eq_true.1 hbefore, List.all_eq_true.1 hafter, rfl⟩

theorem Padded.refl (s : List Char) : Padded s s :=
  ⟨[], [], by simp, by simp, by simp⟩

/-- What is not blank is not among blanks. -/
theorem not_mem_of_blank {sep : Char} (visible : isBlank sep = false) (blank : ∀ c ∈ s, isBlank c = true) :
    sep ∉ s := by
  intro h
  rw [blank sep h] at visible
  cases visible

theorem Padded.not_mem {sep : Char} (visible : isBlank sep = false) (padded : Padded inner text) (h : sep ∉ inner) :
    sep ∉ text := by
  obtain ⟨before, after, hbefore, hafter, rfl⟩ := padded
  simp only [List.mem_append, not_or]
  exact ⟨⟨not_mem_of_blank visible hbefore, h⟩, not_mem_of_blank visible hafter⟩

/-- A text is what trimming leaves of it, with blanks around. -/
theorem padded_trimChars (s : List Char) : Padded (trimChars s) s := by
  let rest := s.dropWhile isBlank
  let after := (rest.reverse.takeWhile isBlank).reverse
  have split : trimChars s ++ after = rest := by
    show (rest.reverse.dropWhile isBlank).reverse ++ (rest.reverse.takeWhile isBlank).reverse = rest
    rw [← List.reverse_append, List.takeWhile_append_dropWhile, List.reverse_reverse]
  refine ⟨s.takeWhile isBlank, after, fun c => List.mem_takeWhile_imp, fun c hc => ?_, ?_⟩
  · exact List.mem_takeWhile_imp (List.mem_reverse.1 hc)
  · rw [List.append_assoc, split, List.takeWhile_append_dropWhile]

theorem dropWhile_trimChars (s : List Char) : (trimChars s).dropWhile isBlank = trimChars s :=
  dropWhile_eq_self_of_prefix (List.rdropWhile_prefix ..) (List.dropWhile_idempotent ..)

/-- **Trimming takes the blanks around a text off**, and no more if the text has none at its own ends. -/
theorem trimChars_of_padded (h : Padded inner text) (tight : trimChars inner = inner) :
    trimChars text = inner := by
  obtain ⟨before, after, hbefore, hafter, rfl⟩ := h
  have start : inner.dropWhile isBlank = inner := tight ▸ dropWhile_trimChars inner
  have stop : trimEndChars inner = inner := by
    have h : trimEndChars (inner.dropWhile isBlank) = inner := tight
    rwa [start] at h
  have ends : trimEndChars (inner ++ after) = inner := by
    rw [trimEndChars, List.reverse_append,
      List.dropWhile_append_of_pos fun c hc => hafter c (List.mem_reverse.1 hc)]
    exact stop
  rw [trimChars, List.append_assoc, List.dropWhile_append_of_pos hbefore]
  cases inner with
  | nil =>
    rw [List.nil_append, List.dropWhile_eq_nil_iff.2 hafter]
    rfl
  | cons c rest =>
    have solid : ¬ isBlank c = true := List.dropWhile_eq_self_iff.1 start (Nat.succ_pos _)
    rw [List.cons_append, List.dropWhile_cons_of_neg solid]
    exact ends

/-- A text without blanks has nothing to trim. -/
theorem trimChars_of_solid (solid : ∀ c ∈ s, isBlank c = false) : trimChars s = s := by
  have start : ∀ t : List Char, (∀ c ∈ t, isBlank c = false) → t.dropWhile isBlank = t := by
    intro t ht
    cases t with
    | nil => rfl
    | cons c rest => exact List.dropWhile_cons_of_neg (by simp [ht c List.mem_cons_self])
  rw [trimChars, trimEndChars, start s solid, start s.reverse fun c hc => solid c (List.mem_reverse.1 hc),
    List.reverse_reverse]

/-- What is left of a text stands in it. -/
theorem trimChars_sublist (s : List Char) : (trimChars s).Sublist s :=
  (List.rdropWhile_prefix ..).sublist.trans (List.dropWhile_suffix _).sublist

/-- Blanks at the end of a text do not count. -/
theorem trimChars_append_blank {tail : List Char} (s : List Char) (blank : ∀ c ∈ tail, isBlank c = true) :
    trimChars (s ++ tail) = trimChars s := by
  obtain ⟨before, after, hbefore, hafter, hs⟩ := padded_trimChars s
  refine trimChars_of_padded ⟨before, after ++ tail, hbefore, ?_, ?_⟩ (trimChars_trimChars s)
  · intro c hc
    exact (List.mem_append.1 hc).elim (hafter c) (blank c)
  · rw [← List.append_assoc, ← hs]

/-- A text with no blank at either end has nothing to trim. -/
theorem trimChars_of_ends (head : ∀ c, s.head? = some c → isBlank c = false)
    (last : ∀ c, s.getLast? = some c → isBlank c = false) : trimChars s = s := by
  have start : ∀ t : List Char, (∀ c, t.head? = some c → isBlank c = false) → t.dropWhile isBlank = t := by
    intro t ht
    cases t with
    | nil => rfl
    | cons c rest => exact List.dropWhile_cons_of_neg (by simp [ht c rfl])
  have stop : ∀ c, s.reverse.head? = some c → isBlank c = false := by
    intro c hc
    exact last c (by rwa [List.head?_reverse] at hc)
  rw [trimChars, trimEndChars, start s head, start s.reverse stop, List.reverse_reverse]

theorem trimChars_map {f : Char → Char} (keeps : ∀ c, isBlank (f c) = isBlank c) (s : List Char) :
    trimChars (s.map f) = (trimChars s).map f := by
  have same : isBlank ∘ f = isBlank := funext keeps
  simp only [trimChars, trimEndChars, List.dropWhile_map, ← List.map_reverse, same]

/-! ## Names -/

/-- **A letter as it is compared**: in lowercase, and one character for another. -/
def fold (a b c : Char) : Char :=
  if c.toLower = a then b else c.toLower

/-- **A text spells a name**: its letters in any case, `a` in the place of `b` if one likes, and blanks
around. -/
def Spells (a b : Char) (text name : String) : Prop :=
  ∃ letters, Padded letters text.toList ∧ letters.map (fold a b) = name.toList

theorem toNat_toLower (c : Char) :
    c.toLower.toNat = if 65 ≤ c.toNat ∧ c.toNat ≤ 90 then c.toNat + 32 else c.toNat := by
  unfold Char.toLower
  split
  next h =>
    have upper : 65 ≤ c.toNat ∧ c.toNat ≤ 90 := h
    have fits : c.toNat + 32 < 4294967296 := by omega
    rw [if_pos upper]
    exact (UInt32.toNat_add c.val 32).trans (Nat.mod_eq_of_lt fits)
  next h => exact (if_neg h).symm

/-- A visible character of ASCII is not blank. -/
theorem isBlank_of_visible {c : Char} (low : 33 ≤ c.toNat) (high : c.toNat ≤ 126) : isBlank c = false := by
  simp only [isBlank, blankRanges, List.any_cons, List.any_nil, Bool.or_false, Bool.or_eq_false_iff,
    Bool.and_eq_false_iff, decide_eq_false_iff_not]
  omega

theorem isBlank_toLower (c : Char) : isBlank c.toLower = isBlank c := by
  have lowered := toNat_toLower c
  split at lowered
  next upper =>
    rw [isBlank_of_visible (by omega) (by omega), isBlank_of_visible (c := c) (by omega) (by omega)]
  next => rw [Char.toNat_inj.1 lowered]

/-- Lowering the case twice is lowering it once. -/
theorem lower_lower (s : String) : lower (lower s) = lower s := by
  have twice : ∀ c : Char, c.toLower.toLower = c.toLower := by
    intro c
    refine Char.toNat_inj.1 ?_
    rw [toNat_toLower, if_neg]
    have lowered := toNat_toLower c
    split at lowered <;> omega
  simp only [lower, String.toList_ofList, List.map_map]
  exact congrArg String.ofList (List.map_congr_left fun c _ => twice c)

/-- Trimming and lowering the case may be exchanged. -/
theorem trim_lower (s : String) : trim (lower s) = lower (trim s) := by
  simp only [trim, lower, String.toList_ofList, trimChars_map isBlank_toLower]

theorem isBlank_fold {a b : Char} (ha : isBlank a = false) (hb : isBlank b = false) (c : Char) :
    isBlank (fold a b c) = isBlank c := by
  rw [← isBlank_toLower c]
  unfold fold
  split
  next h => rw [hb, h, ha]
  next => rfl

/-- What is left of a text is a name, character by character, just when the text has it between blanks. -/
theorem map_trimChars_eq_iff {f : Char → Char} (keeps : ∀ c, isBlank (f c) = isBlank c) {text name : List Char}
    (tight : trimChars name = name) :
    (trimChars text).map f = name ↔ ∃ letters, Padded letters text ∧ letters.map f = name := by
  constructor
  · intro h
    exact ⟨trimChars text, padded_trimChars _, h⟩
  · rintro ⟨letters, padded, spelled⟩
    -- the letters have no blanks at their ends either, for as many are left of them as of the name
    have inside : trimChars letters = letters := by
      have left : (trimChars letters).map f = letters.map f := by
        rw [← trimChars_map keeps, spelled, tight]
      exact (trimChars_sublist letters).eq_of_length (by simpa using congrArg List.length left)
    rw [trimChars_of_padded padded inside, spelled]

/-- **A folded text is a name just when the text spells it**, for a name without blanks at its ends. -/
theorem fold_eq_iff {a b : Char} (ha : isBlank a = false) (hb : isBlank b = false) {text name : String}
    (tight : trimChars name.toList = name.toList) :
    replaceChar a b (lower (trim text)) = name ↔ Spells a b text name := by
  have folded : (replaceChar a b (lower (trim text))).toList = (trimChars text.toList).map (fold a b) := by
    simp only [replaceChar, lower, trim, String.toList_ofList, List.map_map]
    rfl
  rw [← String.toList_inj, folded]
  exact map_trimChars_eq_iff (isBlank_fold ha hb) tight

/-- **A text says a name**: its letters in any case, and blanks around. -/
def Says (text name : String) : Prop :=
  ∃ letters, Padded letters text.toList ∧ letters.map Char.toLower = name.toList

/-- **A trimmed text in lowercase is a name just when the text says it**, for a name without blanks at its ends. -/
theorem lower_trim_eq_iff {text name : String} (tight : trimChars name.toList = name.toList) :
    lower (trim text) = name ↔ Says text name := by
  rw [← String.toList_inj, lower, trim, String.toList_ofList, String.toList_ofList]
  exact map_trimChars_eq_iff isBlank_toLower tight

/-- Blanks and case do not count, and hyphens stand for underscores; every other character does. -/
example : replaceChar '-' '_' (lower (trim "\tMax-Backoff_MS ")) = "max_backoff_ms" := by decide

end Text

/-! ## Numbers -/

namespace Number

variable {s : List Char} {n limit : Nat}

theorem natOfDigits?_eq_some_iff :
    natOfDigits? s = some n ↔
      s ≠ [] ∧ (∀ c ∈ s, c.isDigit = true) ∧ Nat.ofDigitChars 10 s 0 = n := by
  have value : s.foldl (fun n c => n * 10 + (c.toNat - 48)) 0 = Nat.ofDigitChars 10 s 0 := by
    unfold Nat.ofDigitChars
    simp only [Nat.mul_comm 10]
    rfl
  unfold natOfDigits?
  rw [value]
  by_cases hs : s = []
  · simp [hs]
  · by_cases digits : s.all Char.isDigit = true
    · have each : ∀ c ∈ s, c.isDigit = true := List.all_eq_true.1 digits
      simpa [hs, digits] using fun _ => each
    · have other : ¬ ∀ c ∈ s, c.isDigit = true := fun h => digits (List.all_eq_true.2 h)
      simp [digits, other]

/-- **A text spells a number**: decimal digits, a plus before them if one likes, and blanks around. -/
def Spells (text : String) (n : Nat) : Prop :=
  ∃ sign digits, Text.Padded (sign ++ digits) text.toList ∧ (sign = [] ∨ sign = ['+']) ∧
    digits ≠ [] ∧ (∀ c ∈ digits, c.isDigit = true) ∧ Nat.ofDigitChars 10 digits 0 = n

theorem isBlank_of_isDigit {c : Char} (h : c.isDigit = true) : Text.isBlank c = false := by
  simp only [Char.isDigit, Bool.and_eq_true, decide_eq_true_eq] at h
  have low : 48 ≤ c.toNat := h.1
  have high : c.toNat ≤ 57 := h.2
  exact Text.isBlank_of_visible (by omega) (by omega)

/-- The digits of a numeral: what follows its plus, if it has one. -/
theorem natBelow?_eq_some_iff_digits :
    natBelow? limit s = some n ↔
      ∃ sign digits, s = sign ++ digits ∧ (sign = [] ∨ sign = ['+']) ∧ natOfDigits? digits = some n ∧
        n < limit := by
  unfold natBelow?
  simp only [Option.filter_eq_some_iff, decide_eq_true_eq]
  constructor
  · intro h
    split at h
    next rest => exact ⟨['+'], rest, rfl, .inr rfl, h⟩
    next => exact ⟨[], s, rfl, .inl rfl, h⟩
  · rintro ⟨sign, digits, rfl, rfl | rfl, h⟩
    · have digit := (natOfDigits?_eq_some_iff.1 h.1).2.1
      split
      next rest heq =>
        -- a plus is no digit
        have signed : digits = '+' :: rest := heq
        cases digit '+' (signed ▸ List.mem_cons_self)
      next => exact h
    · exact h

/-- **Reading a trimmed numeral decides which number is spelled.** -/
theorem natBelow?_eq_some_iff {text : String} :
    natBelow? limit (Text.trimChars text.toList) = some n ↔ Spells text n ∧ n < limit := by
  rw [natBelow?_eq_some_iff_digits]
  constructor
  · rintro ⟨sign, digits, hs, hsign, hdigits, below⟩
    exact ⟨⟨sign, digits, hs ▸ Text.padded_trimChars _, hsign, natOfDigits?_eq_some_iff.1 hdigits⟩, below⟩
  · rintro ⟨⟨sign, digits, padded, hsign, hne, hdigits, value⟩, below⟩
    have solid : ∀ c ∈ sign ++ digits, Text.isBlank c = false := by
      intro c hc
      rcases List.mem_append.1 hc with hplus | hdigit
      · obtain rfl | rfl := hsign
        · cases hplus
        · rw [List.mem_singleton.1 hplus]
          decide
      · exact isBlank_of_isDigit (hdigits c hdigit)
    exact ⟨sign, digits, Text.trimChars_of_padded padded (Text.trimChars_of_solid solid), hsign,
      natOfDigits?_eq_some_iff.2 ⟨hne, hdigits, value⟩, below⟩

/-- **The usual digits of a number spell it.** -/
theorem spells_toString (n : Nat) : Spells (toString n) n := by
  refine ⟨[], Nat.toDigits 10 n, ?_, .inl rfl, Nat.toDigits_ne_nil, ?_, ?_⟩
  · rw [Nat.toString_eq_repr, Nat.toList_repr]
    exact .refl _
  · exact fun c => Nat.isDigit_of_mem_toDigits (by decide) (by decide)
  · exact Nat.ofDigitChars_toDigits (by decide) (by decide)

end Number

end TypedImport
