import TypedImport.Proofs.Csv.Rows

/-!
# Cutting a text, and its line ends

A text may be cut at any of its newlines, whatever stands before and behind it: the rows are those of the part before,
followed by those of the part behind (`rows_by_lines`).

**Line ends.** `SameLines` says of two texts that they have the same lines, each with any number of carriage returns
before its newline. Such texts have the same rows (`parse_of_sameLines`), so it does not count in which style the
lines are ended, nor whether one style is kept to.
-/

namespace TypedImport.Csv

/-- **Two texts have the same lines**: they differ at most in the carriage returns before their newlines. -/
inductive SameLines : List Char → List Char → Prop where
  /-- The last line, which no newline ends. -/
  | last {line : List Char} (oneLine : '\n' ∉ line) : SameLines line line
  | more {line s t : List Char} (m n : Nat) (oneLine : '\n' ∉ line) (rest : SameLines s t) :
      SameLines (line ++ List.replicate m '\r' ++ '\n' :: s) (line ++ List.replicate n '\r' ++ '\n' :: t)

/-- A text with a carriage return put before every newline. -/
def withReturns (s : List Char) : List Char :=
  s.flatMap fun c => if c = '\n' then ['\r', '\n'] else [c]

variable {line s t : List Char}

/-! ## Line ends -/

/-- **The rows of a text do not depend on how its lines are ended.** -/
theorem parse_of_sameLines (h : SameLines s t) : parse s = parse t := by
  induction h with
  | last => rfl
  | more m n oneLine _ ih => rw [parse_returned oneLine, parse_returned oneLine, ih]

/-- What is put before the newlines of a text leaves the beginning of its first line as it is. -/
theorem sameLines_append_withReturns (oneLine : '\n' ∉ line) (s : List Char) :
    SameLines (line ++ s) (line ++ withReturns s) := by
  induction s generalizing line with
  | nil =>
    rw [withReturns, List.flatMap_nil, List.append_nil]
    exact .last oneLine
  | cons c rest ih =>
    by_cases newline : c = '\n'
    · -- the line is ended, and the next one has nothing in it yet
      subst newline
      have ended := SameLines.more 0 1 oneLine (ih List.not_mem_nil)
      simpa [withReturns] using ended
    · have longer : '\n' ∉ line ++ [c] := by simpa [oneLine] using Ne.symm newline
      simpa [withReturns, newline] using ih longer

theorem sameLines_withReturns (s : List Char) : SameLines s (withReturns s) :=
  sameLines_append_withReturns List.not_mem_nil s

/-! ## Cuts -/

/-- **The rows of a text are those of its lines**, each read as a text by itself. -/
theorem parse_eq_flatMap_lines (s : List Char) : parse s = (s.splitOn '\n').flatMap parse := by
  rw [parse_eq]
  refine List.flatMap_congr fun line hline => ?_
  exact (parse_of_oneLine (Text.not_mem_of_mem_splitOn hline)).symm

/-- **Rows are read line by line, however lines end**: a text cut at a newline has the rows of the part before and then
those of the part behind, so it has the rows of each of its lines; and it has the same rows with a carriage return before
every newline, or with other line ends of any kind. -/
theorem rows_by_lines (s t : List Char) :
    parse (s ++ '\n' :: t) = parse s ++ parse t ∧
      parse s = (s.splitOn '\n').flatMap parse ∧
      parse (withReturns s) = parse s ∧
      ∀ s', SameLines s s' → parse s' = parse s := by
  refine ⟨parse_newline s t, parse_eq_flatMap_lines s, ?_, fun s' same => (parse_of_sameLines same).symm⟩
  exact (parse_of_sameLines (sameLines_withReturns s)).symm

/-- A line of blanks, line ends of both styles and one with a carriage return more, in a text that is cut where an empty
line ends. -/
theorem rows_by_lines_mixed :
    SameLines "name, score\n \t\nada".toList "name, score\r\n \t\nada".toList ∧
      parse ("name, score\r\n \t\nada".toList ++ '\n' :: "\r\r\n7".toList) =
        [[.string "name", .string "score"], [.string "ada"], [.int 7]] := by
  have heading : '\n' ∉ "name, score".toList := by decide
  have blanks : '\n' ∉ " \t".toList := by decide
  have last : '\n' ∉ "ada".toList := by decide
  have same : SameLines "name, score\n \t\nada".toList "name, score\r\n \t\nada".toList :=
    .more 0 1 heading (.more 0 0 blanks (.last last))
  refine ⟨same, ?_⟩
  rw [(rows_by_lines _ _).1, (rows_by_lines _ []).2.2.2 _ same]
  rfl

end TypedImport.Csv
