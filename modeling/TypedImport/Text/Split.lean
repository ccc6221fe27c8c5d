/-!
# Cutting a text at a separator

Fields (`splitOn`), lines (`lines`) and the last cut (`cutLast`), over lists of characters so that
their laws are inductions on the list.

A line ends at a newline; one carriage return right before it belongs to the line end. The text after
the last newline is a line of its own only if it is not empty, and keeps a carriage return at its end.
-/

namespace TypedImport.Text

/-- **The fields of a list between separators**: always one more field than separators. -/
def splitChars (sep : Char) : List Char → List (List Char)
  | [] => [[]]
  | c :: rest =>
    if c = sep then [] :: splitChars sep rest
    else
      match splitChars sep rest with
      | [] => [[c]]
      | field :: fields => (c :: field) :: fields

/-- The fields of a list, by an accumulator that holds the current field reversed. -/
def splitFrom (sep : Char) (field : List Char) (done : List (List Char)) :
    List Char → List (List Char)
  | [] => (field.reverse :: done).reverse
  | c :: rest =>
    if c = sep then splitFrom sep [] (field.reverse :: done) rest
    else splitFrom sep (c :: field) done rest

/-- The fields of a text between separators. -/
def splitOn (sep : Char) (s : String) : List String :=
  (splitFrom sep [] [] s.toList).map String.ofList

/-- Removes one carriage return from the end. -/
def dropReturn (line : List Char) : List Char :=
  if line.getLast? = some '\r' then line.dropLast else line

/-- **The lines of a list of characters**, given the pieces between its newlines: every piece but the
last was ended by a newline, and an empty last piece is no line. -/
def linesOfPieces (pieces : List (List Char)) : List (List Char) :=
  pieces.dropLast.map dropReturn ++ (pieces.getLast?.toList.filter fun last => !last.isEmpty)

def lineChars (s : List Char) : List (List Char) :=
  linesOfPieces (splitFrom '\n' [] [] s)

def lines (s : String) : List String :=
  (lineChars s.toList).map String.ofList

/-- The part before the first `sep` and the part after it, if there is one. -/
def cutFirst (sep : Char) (s : List Char) : Option (List Char × List Char) :=
  match s.dropWhile (· != sep) with
  | [] => none
  | _ :: rest => some (s.takeWhile (· != sep), rest)

/-- The part before the last `sep` and the part after it, if there is one. -/
def cutLast (sep : Char) (s : List Char) : Option (List Char × List Char) :=
  (cutFirst sep s.reverse).map fun (tail, front) => (front.reverse, tail.reverse)

/-- A list of texts with a separator between each two. -/
def join (sep : String) : List String → String
  | [] => ""
  | [s] => s
  | s :: rest => s ++ sep ++ join sep rest

theorem splitChars_ne_nil (sep : Char) (s : List Char) : splitChars sep s ≠ [] := by
  induction s with
  | nil => simp [splitChars]
  | cons c rest ih =>
    unfold splitChars
    split
    · simp
    · split <;> simp

/-- The accumulating cut is the plain one. -/
theorem splitFrom_eq (sep : Char) (field : List Char) (done : List (List Char)) (s : List Char) :
    splitFrom sep field done s =
      done.reverse ++ (match splitChars sep s with
        | [] => [field.reverse]
        | first :: fields => (field.reverse ++ first) :: fields) := by
  induction s generalizing field done with
  | nil => simp [splitFrom, splitChars]
  | cons c rest ih =>
    unfold splitFrom splitChars
    split
    · rw [ih]
      cases h : splitChars sep rest with
      | nil => exact absurd h (splitChars_ne_nil _ _)
      | cons f fs => simp
    · rw [ih]
      cases h : splitChars sep rest with
      | nil => exact absurd h (splitChars_ne_nil _ _)
      | cons f fs => simp

theorem splitFrom_nil_nil (sep : Char) (s : List Char) :
    splitFrom sep [] [] s = splitChars sep s := by
  rw [splitFrom_eq]
  cases h : splitChars sep s with
  | nil => exact absurd h (splitChars_ne_nil _ _)
  | cons f fs => simp

/-- The fields of a text are those of its characters. -/
theorem splitOn_eq (sep : Char) (s : String) :
    splitOn sep s = (splitChars sep s.toList).map String.ofList := by
  rw [splitOn, splitFrom_nil_nil]

/-- The lines are those of the pieces between newlines. -/
theorem lineChars_eq (s : List Char) : lineChars s = linesOfPieces (splitChars '\n' s) := by
  rw [lineChars, splitFrom_nil_nil]

end TypedImport.Text
