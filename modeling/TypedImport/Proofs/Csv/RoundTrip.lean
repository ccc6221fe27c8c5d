import Mathlib.Data.List.Forall2
import TypedImport.Proofs.Csv.Rows

/-!
# Tables, written and read

A table is rows of whole numbers of 64 bits and of texts that a field keeps (`Cell`), and `Written` says what texts
write it: a line a row, commas between the fields, blanks around any of them, lines of blanks wherever one likes,
each line ended in either way and the last one ended or not.

**Reading undoes writing** (`restores_table`). The proof has a step for each layer of the text: a field gives back its
cell (`field_of_holds`), a line its row (`rowsOf_of_line`), and a line with its end comes off the front of a text
(`parse_line`).

**What is excluded** cannot be told apart in writing: a text that is a numeral is a number, and a row of a single empty
text is a line of blanks.
-/

namespace TypedImport

/-! ## Whole numbers -/

namespace Number

theorem natOfDigits?_toDigits (n : Nat) : natOfDigits? (Nat.toDigits 10 n) = some n :=
  natOfDigits?_eq_some_iff.2 ⟨Nat.toDigits_ne_nil, fun _ => Nat.isDigit_of_mem_toDigits (by decide) (by decide),
    Nat.ofDigitChars_toDigits (by decide) (by decide)⟩

theorem cutSign_of_isDigit {s : List Char} (digits : ∀ c ∈ s, c.isDigit = true) : cutSign s = (false, s) := by
  unfold cutSign
  split
  next => cases digits '-' List.mem_cons_self
  next => cases digits '+' List.mem_cons_self
  next => rfl

/-- The usual digits of a whole number, after a minus if it is below zero. -/
theorem toList_toString (n : Int) :
    (toString n).toList =
      if 0 ≤ n then Nat.toDigits 10 n.toNat else '-' :: Nat.toDigits 10 (-n).toNat := by
  rw [Int.toString_eq_repr, Int.repr_eq_if]
  split
  next => rw [Nat.toList_repr]
  next => rw [String.toList_append, Nat.toList_repr]; rfl

/-- **A whole number reads back from its digits.** -/
theorem int?_toString (n : Int) : int? (toString n).toList = some n := by
  rw [toList_toString]
  split
  next pos =>
    have digits : ∀ c ∈ Nat.toDigits 10 n.toNat, c.isDigit = true :=
      fun _ => Nat.isDigit_of_mem_toDigits (by decide) (by decide)
    simp only [int?, cutSign_of_isDigit digits, natOfDigits?_toDigits, Bool.false_eq_true, if_false]
    exact congrArg some (Int.toNat_of_nonneg pos)
  next neg =>
    have back : -((-n).toNat : Int) = n := by omega
    simp only [int?, cutSign, natOfDigits?_toDigits, if_true]
    exact congrArg some back

theorem int64?_toString (n : Int64) : int64? (toString n.toInt).toList = some n.toInt := by
  have low : -(Nat.pow 2 63 : Int) ≤ n.toInt := n.le_toInt
  have high : n.toInt < (Nat.pow 2 63 : Int) := n.toInt_lt
  rw [int64?, int?_toString, Option.filter_some, if_pos]
  rw [Bool.and_eq_true]
  exact ⟨decide_eq_true low, decide_eq_true high⟩

theorem isDigit_or_minus {n : Int} {c : Char} (h : c ∈ (toString n).toList) : c.isDigit = true ∨ c = '-' := by
  rw [toList_toString] at h
  split at h
  next => exact .inl (Nat.isDigit_of_mem_toDigits (by decide) (by decide) h)
  next =>
    rcases List.mem_cons.1 h with rfl | h
    · exact .inr rfl
    · exact .inl (Nat.isDigit_of_mem_toDigits (by decide) (by decide) h)

end Number

namespace Csv

/-! ## Tables -/

/-- **A text that a field keeps**: it has no blank at either end, no comma and no newline, and is read neither as a
whole number of 64 bits nor as a finite decimal numeral. -/
structure Plain (s : List Char) : Prop where
  head : ∀ c, s.head? = some c → Text.isBlank c = false
  last : ∀ c, s.getLast? = some c → Text.isBlank c = false
  noComma : ',' ∉ s
  oneLine : '\n' ∉ s
  notWhole : Number.int64? s = none
  notFinite : ∀ d, Number.Decimal.ofChars? s = some d → (Binary64.ofDecimal d).isFinite = false

instance (s : List Char) : Decidable (Plain s) :=
  decidable_of_iff
    ((s.head?.all fun c => !Text.isBlank c) = true ∧ (s.getLast?.all fun c => !Text.isBlank c) = true ∧
      ',' ∉ s ∧ '\n' ∉ s ∧ Number.int64? s = none ∧
      ((Number.Decimal.ofChars? s).all fun d => !(Binary64.ofDecimal d).isFinite) = true)
    (by
      simp only [Option.all_eq_true, Bool.not_eq_true']
      exact ⟨fun ⟨a, b, c, d, e, f⟩ => ⟨a, b, c, d, e, f⟩, fun ⟨a, b, c, d, e, f⟩ => ⟨a, b, c, d, e, f⟩⟩)

/-- **What a field can hold.** -/
inductive Cell where
  | whole (n : Int64)
  | text (s : String) (plain : Plain s.toList)

namespace Cell

def value : Cell → Value
  | whole n => .int n.toInt
  | text s _ => .string s

/-- A cell as it is written: a number in decimal digits. -/
def written : Cell → List Char
  | whole n => (toString n.toInt).toList
  | text s _ => s.toList

end Cell

/-- **A row** has cells, and is not one empty text alone. -/
structure Row where
  cells : List Cell
  nonempty : cells ≠ []
  notBlank : cells.map Cell.value ≠ [.string ""]

def Row.values (r : Row) : List Value :=
  r.cells.map Cell.value

/-! ## Writing -/

/-- **A field holds a cell**, with blanks around it if one likes. -/
structure Holds (cell : Cell) (field : List Char) : Prop where
  padded : Text.Padded cell.written field
  oneLine : '\n' ∉ field

/-- **A line of a table**: it writes one row, by fields with commas between them, or none, by blanks. -/
inductive Line : List Char → List Row → Prop
  | blank {line : List Char} (blank : ∀ c ∈ line, Text.isBlank c = true) (oneLine : '\n' ∉ line) : Line line []
  | row {r : Row} {fields : List (List Char)} (held : List.Forall₂ Holds r.cells fields) :
    Line ([','].intercalate fields) [r]

/-- The two ways to end a line. -/
inductive LineEnd : List Char → Prop
  | newline : LineEnd ['\n']
  | returned : LineEnd ['\r', '\n']

/-- **A text writes a table**: line by line, the last line without an end. -/
inductive Written : List Char → List Row → Prop
  | last {line : List Char} {rows : List Row} (writes : Line line rows) : Written line rows
  | more {line ends rest : List Char} {first rows : List Row} (writes : Line line first) (ended : LineEnd ends)
    (written : Written rest rows) : Written (line ++ ends ++ rest) (first ++ rows)

/-- A table in its plainest form: no blanks, and a newline after each row. -/
def render (rows : List Row) : List Char :=
  rows.flatMap fun r => [','].intercalate (r.cells.map Cell.written) ++ ['\n']

/-! ## Cells -/

variable {cell : Cell} {line : List Char} {r : Row}

theorem isBlank_of_written_whole {n : Int} {c : Char} (h : c ∈ (toString n).toList) : Text.isBlank c = false := by
  rcases Number.isDigit_or_minus h with digit | rfl
  · exact Number.isBlank_of_isDigit digit
  · decide

/-- A cell is written without blanks at its ends. -/
theorem trimChars_written (cell : Cell) : Text.trimChars cell.written = cell.written := by
  cases cell with
  | whole n => exact Text.trimChars_of_solid fun c => isBlank_of_written_whole
  | text s plain => exact Text.trimChars_of_ends plain.head plain.last

theorem comma_not_mem_written (cell : Cell) : ',' ∉ cell.written := by
  cases cell with
  | whole n =>
    intro comma
    rcases Number.isDigit_or_minus comma with digit | minus
    · cases digit
    · cases minus
  | text s plain => exact plain.noComma

theorem newline_not_mem_written (cell : Cell) : '\n' ∉ cell.written := by
  cases cell with
  | whole n => exact fun newline => absurd (isBlank_of_written_whole newline) (by decide)
  | text s plain => exact plain.oneLine

theorem Holds.comma_not_mem {f : List Char} (h : Holds cell f) : ',' ∉ f :=
  h.padded.not_mem (by decide) (comma_not_mem_written cell)

/-- **A field gives back the cell that it holds.** -/
theorem field_of_holds {f : List Char} (h : Holds cell f) : field f = cell.value := by
  have inner : Text.trimChars f = cell.written := Text.trimChars_of_padded h.padded (trimChars_written cell)
  unfold field
  rw [inner]
  cases cell with
  | whole n => simp only [Cell.written, Number.int64?_toString, Cell.value]
  | text s plain =>
    simp only [Cell.written, plain.notWhole, Cell.value, String.ofList_toList]
    cases read : Number.Decimal.ofChars? s.toList with
    | none => rfl
    | some d =>
      simp only [Option.map_some, plain.notFinite d read]
      rfl

/-- Only an empty text is held by blanks. -/
theorem value_of_blank {f : List Char} (h : Holds cell f) (blank : ∀ c ∈ f, Text.isBlank c = true) :
    cell.value = .string "" := by
  have inner : Text.trimChars f = cell.written := Text.trimChars_of_padded h.padded (trimChars_written cell)
  have empty : cell.written = [] := by
    rw [← inner, Text.trimChars_eq_nil_iff]
    exact blank
  rw [← field_of_holds h, field, inner, empty]
  rfl

/-! ## Lines -/

section

variable {cells : List Cell} {fields : List (List Char)}

theorem map_field_of_held (held : List.Forall₂ Holds cells fields) : fields.map field = cells.map Cell.value := by
  induction held with
  | nil => rfl
  | cons holds _ ih => rw [List.map_cons, List.map_cons, field_of_holds holds, ih]

theorem comma_not_mem_of_held (held : List.Forall₂ Holds cells fields) : ∀ f ∈ fields, ',' ∉ f := by
  induction held with
  | nil => exact fun f hf => absurd hf List.not_mem_nil
  | cons holds _ ih => exact List.forall_mem_cons.2 ⟨holds.comma_not_mem, ih⟩

theorem newline_not_mem_of_held (held : List.Forall₂ Holds cells fields) : '\n' ∉ [','].intercalate fields := by
  induction held with
  | nil => exact List.not_mem_nil
  | @cons _ f _ fields holds held ih =>
    cases fields with
    | nil => exact List.intercalate_singleton ▸ holds.oneLine
    | cons g fields =>
      rw [List.intercalate_cons_cons]
      simp only [List.mem_append, not_or]
      exact ⟨⟨holds.oneLine, by decide⟩, ih⟩

end

theorem fields_ne_nil {fields : List (List Char)} (held : List.Forall₂ Holds r.cells fields) : fields ≠ [] := by
  rintro rfl
  exact r.nonempty (List.forall₂_nil_right_iff.1 held)

/-- Blanks write no row: a row has more than one field, or one that is not blank. -/
theorem not_blank_of_held {fields : List (List Char)} (held : List.Forall₂ Holds r.cells fields) :
    ¬ ∀ c ∈ [','].intercalate fields, Text.isBlank c = true := by
  intro blank
  rcases fields with _ | ⟨f, _ | ⟨g, fields⟩⟩
  · exact fields_ne_nil held rfl
  · obtain ⟨cell, cells, holds, rest, hcells⟩ := List.forall₂_cons_right_iff.1 held
    rw [List.forall₂_nil_right_iff.1 rest] at hcells
    rw [List.intercalate_singleton] at blank
    exact r.notBlank (by rw [hcells, List.map_singleton, value_of_blank holds blank])
  · have comma : ',' ∈ [','].intercalate (f :: g :: fields) := by
      rw [List.intercalate_cons_cons]
      exact List.mem_append_left _ (List.mem_append_right _ (List.mem_singleton_self _))
    exact absurd (blank ',' comma) (by decide)

/-- **A line gives back its row.** -/
theorem rowsOf_of_line {rows : List Row} (h : Line line rows) : rowsOf line = rows.map Row.values := by
  cases h with
  | blank blank _ => exact rowsOf_of_blank blank
  | @row r fields held =>
    have given : fields.map field = r.values := map_field_of_held held
    rw [rowsOf, if_neg (mt List.all_eq_true.1 (not_blank_of_held held)), row, Text.splitFrom_nil_nil,
      Text.splitChars_eq_splitOn,
      List.splitOn_intercalate ',' (comma_not_mem_of_held held) (fields_ne_nil held), given, List.map_singleton]

theorem newline_not_mem_of_line {rows : List Row} (h : Line line rows) : '\n' ∉ line := by
  cases h with
  | blank _ oneLine => exact oneLine
  | row held => exact newline_not_mem_of_held held

/-- A line and its end come off the front of a text. -/
theorem parse_line {ends : List Char} (ended : LineEnd ends) (oneLine : '\n' ∉ line) (rest : List Char) :
    parse (line ++ ends ++ rest) = rowsOf line ++ parse rest := by
  cases ended with
  | newline => simpa using parse_returned oneLine 0 rest
  | returned => simpa using parse_returned oneLine 1 rest

/-! ## Texts -/

/-- **Whatever writes a table is read as it.** -/
theorem parse_of_written {text : List Char} {rows : List Row} (h : Written text rows) :
    parse text = rows.map Row.values := by
  induction h with
  | last writes => rw [parse_of_oneLine (newline_not_mem_of_line writes), rowsOf_of_line writes]
  | more writes ended _ ih =>
    rw [parse_line ended (newline_not_mem_of_line writes), rowsOf_of_line writes, ih, List.map_append]

theorem holds_written (cell : Cell) : Holds cell cell.written :=
  ⟨Text.Padded.refl _, newline_not_mem_written cell⟩

/-- A cell with spaces around it. -/
theorem holds_spaced (cell : Cell) (before after : Nat) :
    Holds cell (List.replicate before ' ' ++ cell.written ++ List.replicate after ' ') where
  padded :=
    ⟨List.replicate before ' ', List.replicate after ' ', fun c hc => List.eq_of_mem_replicate hc ▸ by decide,
      fun c hc => List.eq_of_mem_replicate hc ▸ by decide, rfl⟩
  oneLine := by
    simp only [List.mem_append, List.mem_replicate, not_or]
    exact ⟨⟨by simp, newline_not_mem_written cell⟩, by simp⟩

/-- Every table has a written form. -/
theorem written_render (rows : List Row) : Written (render rows) rows := by
  induction rows with
  | nil => exact .last (.blank (fun c hc => absurd hc List.not_mem_nil) List.not_mem_nil)
  | cons r rest ih =>
    have held : List.Forall₂ Holds r.cells (r.cells.map Cell.written) :=
      List.forall₂_map_right_iff.2 (List.forall₂_same.2 fun cell _ => holds_written cell)
    exact .more (.row held) .newline ih

/-- **Reading undoes writing**: every table has a written form, and each of its written forms is read as the table,
with its rows, cells and numbers in their order. -/
theorem restores_table (rows : List Row) :
    Written (render rows) rows ∧ ∀ text, Written text rows → parse text = rows.map Row.values :=
  ⟨written_render rows, fun _ => parse_of_written⟩

/-! ### A table -/

/-- Two texts, one with a carriage return inside. -/
def heading : Row :=
  ⟨[.text "name" (by decide), .text "a\rb" (by decide)], by simp, by simp⟩

/-- Empty cells, which are a row where they are two. -/
def gap : Row :=
  ⟨[.text "" (by decide), .text "" (by decide)], by simp, by simp⟩

/-- The lowest number, and a numeral that is too large to be finite. -/
def extremes : Row :=
  ⟨[.whole Int64.minValue, .text "1e400" (by decide)], by simp, by simp⟩

/-- A writing of them: among lines of blanks, with line ends of both kinds and none at the end. -/
def sheet : List Char :=
  "\t\r\nname , a\rb\r\n\n,\n-9223372036854775808,  1e400".toList

theorem written_sheet : Written sheet [heading, gap, extremes] := by
  have first : List.Forall₂ Holds heading.cells ["name ".toList, " a\rb".toList] :=
    .cons (holds_spaced (.text "name" _) 0 1) (.cons (holds_spaced (.text "a\rb" _) 1 0) .nil)
  have second : List.Forall₂ Holds gap.cells [[], []] :=
    .cons (holds_spaced (.text "" _) 0 0) (.cons (holds_spaced (.text "" _) 0 0) .nil)
  have third : List.Forall₂ Holds extremes.cells ["-9223372036854775808".toList, "  1e400".toList] :=
    .cons (holds_spaced (.whole Int64.minValue) 0 0) (.cons (holds_spaced (.text "1e400" _) 2 0) .nil)
  have blank : Line "\t".toList [] := .blank (List.all_eq_true.1 rfl) (by decide)
  have empty : Line [] [] := .blank (List.all_eq_true.1 rfl) List.not_mem_nil
  exact .more blank .returned (.more (.row first) .returned (.more empty .newline (.more (.row second) .newline
    (.last (.row third)))))

theorem restores_sheet :
    Written sheet [heading, gap, extremes] ∧
      parse sheet =
        [[.string "name", .string "a\rb"], [.string "", .string ""],
          [.int (-9223372036854775808), .string "1e400"]] :=
  ⟨written_sheet, (restores_table [heading, gap, extremes]).2 sheet written_sheet⟩

end Csv

end TypedImport
