import Mathlib.Data.List.DropRight
import TypedImport.Import.Request

/-!
# What a check makes of an assertion

A check trims the type of an assertion and keeps the rest of it. A trimmed text has nothing more to trim,
so an assertion that was checked passes the check again as it is, and the two checks that an import by
name goes through come to the same as one (`ImportRequest.make_of_check`).

**What a check finds.** `Malformed` says without the check what is wrong with an assertion. A check tells an
error just for those that are malformed (`malformed_iff_check`), and neither the specifier nor the URL
counts for it.
-/

namespace TypedImport

/-! ## Trimming -/

namespace Text

theorem dropWhile_eq_self_of_prefix {p : Char → Bool} {s t : List Char} (h : s <+: t)
    (ht : t.dropWhile p = t) : s.dropWhile p = s := by
  obtain ⟨rest, rfl⟩ := h
  cases s with
  | nil => rfl
  | cons c cs =>
    have hc : ¬ p c := List.dropWhile_eq_self_iff.1 ht (Nat.succ_pos _)
    exact List.dropWhile_cons_of_neg hc

theorem trimChars_trimChars (s : List Char) : trimChars (trimChars s) = trimChars s := by
  have hstart : (s.dropWhile isBlank).dropWhile isBlank = s.dropWhile isBlank :=
    List.dropWhile_idempotent ..
  -- what is dropped at the end leaves the start as it is
  have hkept : (trimChars s).dropWhile isBlank = trimChars s :=
    dropWhile_eq_self_of_prefix (List.rdropWhile_prefix ..) hstart
  calc trimChars (trimChars s)
      = trimEndChars (trimChars s) := congrArg trimEndChars hkept
    _ = trimChars s := List.rdropWhile_idempotent ..

/-- **Trimming a text twice is trimming it once.** -/
theorem trim_trim (s : String) : trim (trim s) = trim s := by
  unfold trim
  rw [String.toList_ofList, trimChars_trimChars]

/-- What is trimmed are blanks of every kind, and those between letters stay. -/
example : trim "\t typed csv\u00a0\n" = "typed csv" := by decide

theorem trimChars_eq_nil_iff {s : List Char} : trimChars s = [] ↔ ∀ c ∈ s, isBlank c = true := by
  constructor
  · intro h
    -- with nothing but blanks behind it the start is dropped as a whole
    have blank : ∀ c ∈ s.dropWhile isBlank, isBlank c = true := List.rdropWhile_eq_nil_iff.1 h
    have gone : (s.dropWhile isBlank).dropWhile isBlank = [] := List.dropWhile_eq_nil_iff.2 blank
    rw [List.dropWhile_idempotent] at gone
    exact List.dropWhile_eq_nil_iff.1 gone
  · intro h
    unfold trimChars
    rw [List.dropWhile_eq_nil_iff.2 h]
    rfl

/-- **A text is blank just when nothing is left of it.** -/
theorem trim_eq_empty_iff {s : String} : trim s = "" ↔ isBlankText s = true := by
  unfold trim isBlankText
  rw [List.all_eq_true, ← trimChars_eq_nil_iff]
  exact String.ofList_eq_empty_iff

end Text

/-! ## Checks -/

namespace Assertion

variable {a b : Assertion} {specifier url : String} {bindings : Bindings}

/-- **An assertion that passes a check** has a type that is not blank and no fault, and its type is
trimmed. -/
theorem check_eq_ok_iff :
    a.check specifier url bindings = .ok b ↔
      Text.trim a.type ≠ "" ∧ a.fault? bindings = none ∧ b = { a with type := Text.trim a.type } := by
  unfold check
  dsimp only
  split
  next hempty =>
    rw [String.isEmpty_iff] at hempty
    constructor
    · intro h
      cases h
    · rintro ⟨hne, -⟩
      exact absurd hempty hne
  next hne =>
    rw [String.isEmpty_iff] at hne
    split
    next fault hfault =>
      constructor
      · intro h
        cases h
      · rintro ⟨-, hnone, -⟩
        rw [hfault] at hnone
        cases hnone
    next hnone =>
      constructor
      · intro h
        cases h
        exact ⟨hne, hnone, rfl⟩
      · rintro ⟨-, -, rfl⟩
        rfl

/-- **An assertion is malformed** for what an import binds. -/
inductive Malformed (a : Assertion) (bindings : Bindings) : Prop where
  | blankType (blank : Text.isBlankText a.type = true)
  | blankPath {path : String} (handler : a.handler = .module path) (blank : Text.isBlankText path = true)
  /-- It names a handler, and nothing is bound. -/
  | unbound (named : a.handler.isExplicit = true) (nothing : bindings = .sideEffect)
  | noNames (names : bindings = .named [])
  | blankName {names : List String} {name : String} (named : bindings = .named names) (mem : name ∈ names)
      (blank : Text.isBlankText name = true)

theorem fault?_ne_none_iff :
    a.fault? bindings ≠ none ↔
      (∃ path, a.handler = .module path ∧ Text.isBlankText path = true) ∨
        (a.handler.isExplicit = true ∧ bindings = .sideEffect) ∨
        ∃ names, bindings = .named names ∧ (names = [] ∨ ∃ name ∈ names, Text.isBlankText name = true) := by
  obtain ⟨type, handler, encoding⟩ := a
  unfold fault?
  cases handler <;> cases bindings <;> simp [AssertedHandler.isExplicit] <;> grind

/-- **An assertion is malformed just when a check finds something wrong with it.** -/
theorem malformed_iff :
    a.Malformed bindings ↔ Text.trim a.type = "" ∨ a.fault? bindings ≠ none := by
  rw [Text.trim_eq_empty_iff, fault?_ne_none_iff]
  constructor
  · intro h
    cases h with
    | blankType blank => exact .inl blank
    | blankPath handler blank => exact .inr (.inl ⟨_, handler, blank⟩)
    | unbound named nothing => exact .inr (.inr (.inl ⟨named, nothing⟩))
    | noNames names => exact .inr (.inr (.inr ⟨_, names, .inl rfl⟩))
    | blankName named mem blank => exact .inr (.inr (.inr ⟨_, named, .inr ⟨_, mem, blank⟩⟩))
  · rintro (blank | ⟨path, handler, blank⟩ | ⟨named, nothing⟩ | ⟨names, named, rfl | ⟨name, mem, blank⟩⟩)
    · exact .blankType blank
    · exact .blankPath handler blank
    · exact .unbound named nothing
    · exact .noNames named
    · exact .blankName named mem blank

/-- **A check tells of an assertion that is malformed**, and of no other. -/
theorem malformed_iff_check (specifier url : String) :
    a.Malformed bindings ↔
      ∃ type reason, a.check specifier url bindings = .error (.assertion specifier url type reason) := by
  rw [malformed_iff]
  unfold check
  dsimp only
  split
  next hempty =>
    rw [String.isEmpty_iff] at hempty
    exact iff_of_true (.inl hempty) ⟨_, _, rfl⟩
  next hne =>
    rw [String.isEmpty_iff] at hne
    split
    next fault hfault => exact iff_of_true (.inr (by simp [hfault])) ⟨_, _, rfl⟩
    next hnone => exact iff_of_false (by simp [hne, hnone]) (by simp)

/-- Of an assertion that is malformed in two ways one is told. -/
example : ({ type := " csv ", handler := .module " " } : Assertion).check "s" "u" .sideEffect =
    .error (.assertion "s" "u" "csv" .emptyModulePath) := by
  rfl

/-- **A checked assertion passes every check** for its bindings, and stays as it is. -/
theorem check_of_check (h : a.check specifier url bindings = .ok b) (specifier' url' : String) :
    b.check specifier' url' bindings = .ok b := by
  obtain ⟨hne, hnone, rfl⟩ := check_eq_ok_iff.1 h
  rw [check_eq_ok_iff, Text.trim_trim]
  exact ⟨hne, hnone, rfl⟩

end Assertion

namespace ImportRequest

variable {a b : Assertion} {specifier : String} {url : Url} {bindings : Bindings}
  {request : ImportRequest}

theorem make_eq_ok_iff :
    make specifier url a bindings = .ok request ↔
      ∃ b, a.check specifier url.text bindings = .ok b ∧ request = ⟨specifier, url, b, bindings⟩ := by
  unfold make
  split
  next b hb =>
    constructor
    · intro h
      cases h
      exact ⟨b, hb, rfl⟩
    · rintro ⟨c, hc, rfl⟩
      rw [hb] at hc
      cases hc
      rfl
  next e he =>
    constructor
    · intro h
      cases h
    · rintro ⟨c, hc, -⟩
      rw [he] at hc
      cases hc

/-- **A request is of the URL and of the trimmed type** that it was made for. -/
theorem url_type_of_make (h : make specifier url a bindings = .ok request) :
    request.url = url ∧ request.type = Text.trim a.type := by
  obtain ⟨b, hb, rfl⟩ := make_eq_ok_iff.1 h
  obtain ⟨-, -, rfl⟩ := Assertion.check_eq_ok_iff.1 hb
  exact ⟨rfl, rfl⟩

theorem handler_of_make (h : make specifier url a bindings = .ok request) :
    request.assertion.handler = a.handler := by
  obtain ⟨b, hb, rfl⟩ := make_eq_ok_iff.1 h
  obtain ⟨-, -, rfl⟩ := Assertion.check_eq_ok_iff.1 hb
  rfl

/-- A request may as well be made of the assertion before its check as of the checked one. -/
theorem make_of_check {shown : String} (h : a.check specifier shown bindings = .ok b) (url : Url) :
    make specifier url a bindings = make specifier url b bindings := by
  have hb := Assertion.check_of_check h specifier url.text
  have ha : a.check specifier url.text bindings = .ok b :=
    Assertion.check_eq_ok_iff.2 (Assertion.check_eq_ok_iff.1 h)
  unfold make
  rw [ha, hb]

end ImportRequest

end TypedImport
