import TypedImport.Csv
import TypedImport.Proofs.Text.Pieces
import TypedImport.Proofs.Text.Spelling

/-!
# Rows, line by line

The rows of a text are those of its lines, and what a line says depends on that line alone (`rowsOf`): nothing, if
it is of blanks, and a row otherwise.

**Line ends.** Carriage returns at the end of a line are blanks around its last field, so it does not matter
which of them belong to the line end (`parse_eq`). A text that is put together at a newline has the rows of its
parts (`parse_newline`), so a line comes off the front of a text whatever ends it (`parse_returned`).
-/

namespace TypedImport

namespace Csv

variable {line tail : List Char}

/-- **The rows of one line**: none of a line of blanks. -/
def rowsOf (line : List Char) : List (List Value) :=
  if line.all Text.isBlank then [] else [row line]

theorem rowsOf_of_blank (blank : ∀ c ∈ line, Text.isBlank c = true) : rowsOf line = [] :=
  if_pos (List.all_eq_true.2 blank)

/-! ## Line ends -/

theorem row_append_blank (line : List Char) (blank : ∀ c ∈ tail, Text.isBlank c = true) :
    row (line ++ tail) = row line := by
  have whole : ',' ∉ tail := Text.not_mem_of_blank (by decide) blank
  obtain ⟨front, last, hline, hboth⟩ := Text.exists_splitOn_append line whole
  have same : field (last ++ tail) = field last := by
    unfold field
    rw [Text.trimChars_append_blank last blank]
  simp only [row, Text.splitFrom_nil_nil, Text.splitChars_eq_splitOn, hline, hboth, List.map_append, List.map_cons,
    List.map_nil, same]

/-- Blanks at the end of a line do not count. -/
theorem rowsOf_append_blank (line : List Char) (blank : ∀ c ∈ tail, Text.isBlank c = true) :
    rowsOf (line ++ tail) = rowsOf line := by
  simp only [rowsOf, List.all_append, List.all_eq_true.2 blank, Bool.and_true, row_append_blank line blank]

theorem isBlank_of_eq_return : ∀ c : Char, c = '\r' → Text.isBlank c = true := by
  rintro _ rfl
  decide

theorem exists_dropReturns (line : List Char) :
    ∃ tail, line = dropReturns line ++ tail ∧ ∀ c ∈ tail, Text.isBlank c = true := by
  refine ⟨(line.reverse.takeWhile (· = '\r')).reverse, ?_, fun c hc => ?_⟩
  · rw [dropReturns, ← List.reverse_append, List.takeWhile_append_dropWhile, List.reverse_reverse]
  · have returned := List.mem_takeWhile_imp (List.mem_reverse.1 hc)
    exact isBlank_of_eq_return c (of_decide_eq_true returned)

theorem rowsOf_dropReturn (line : List Char) : rowsOf (Text.dropReturn line) = rowsOf line := by
  unfold Text.dropReturn
  split
  next ends =>
    obtain ⟨front, rfl⟩ := List.getLast?_eq_some_iff.1 ends
    rw [List.dropLast_concat, rowsOf_append_blank]
    exact fun c hc => isBlank_of_eq_return c (List.mem_singleton.1 hc)
  next => rfl

/-! ## Texts -/

/-- What is kept of the lines of a text, and read, is the rows of each. -/
theorem rows_of_lines (lines : List (List Char)) :
    ((lines.map dropReturns).filter fun line => !line.all Text.isBlank).map row = lines.flatMap rowsOf := by
  induction lines with
  | nil => rfl
  | cons line rest ih =>
    have head : rowsOf (dropReturns line) = rowsOf line := by
      obtain ⟨tail, hline, blank⟩ := exists_dropReturns line
      conv_rhs => rw [hline]
      exact (rowsOf_append_blank _ blank).symm
    rw [List.flatMap_cons, ← ih, ← head, List.map_cons, List.filter_cons, rowsOf]
    cases (dropReturns line).all Text.isBlank <;> rfl

/-- **The rows of a text are those of the pieces between its newlines.** -/
theorem parse_eq (s : List Char) : parse s = (s.splitOn '\n').flatMap rowsOf := by
  obtain ⟨front, last, hs, -⟩ := Text.exists_splitOn_append s (List.not_mem_nil (a := '\n'))
  have ended : (front.map Text.dropReturn).flatMap rowsOf = front.flatMap rowsOf := by
    simp only [List.flatMap_map, rowsOf_dropReturn]
  have unended : ([last].filter fun line => !line.isEmpty).flatMap rowsOf = [last].flatMap rowsOf := by
    cases last with
    | nil => rfl
    | cons c rest => rfl
  rw [parse, rows_of_lines, Text.lineChars_eq, Text.splitChars_eq_splitOn, hs, Text.linesOfPieces,
    List.dropLast_concat, List.getLast?_concat, Option.toList_some, List.flatMap_append, List.flatMap_append, ended,
    unended]

/-- **A newline divides a text into rows and rows.** -/
theorem parse_newline (s t : List Char) : parse (s ++ '\n' :: t) = parse s ++ parse t := by
  simp only [parse_eq, List.splitOn_append_cons_self, List.flatMap_append]

/-- A text of one line has the rows of it. -/
theorem parse_of_oneLine (oneLine : '\n' ∉ line) : parse line = rowsOf line := by
  rw [parse_eq, List.splitOn_eq_singleton oneLine, List.flatMap_singleton]

/-- **A line comes off the front of a text** with its newline and the carriage returns before it. -/
theorem parse_returned (oneLine : '\n' ∉ line) (n : Nat) (rest : List Char) :
    parse (line ++ List.replicate n '\r' ++ '\n' :: rest) = rowsOf line ++ parse rest := by
  have returned : '\n' ∉ line ++ List.replicate n '\r' := by simpa using oneLine
  have blank : ∀ c ∈ List.replicate n '\r', Text.isBlank c = true :=
    fun c hc => isBlank_of_eq_return c (List.eq_of_mem_replicate hc)
  rw [parse_newline, parse_of_oneLine returned, rowsOf_append_blank line blank]

end Csv

end TypedImport
