/-!
# Blank characters, trimming and ASCII case

What counts as surrounding white space wherever the library trims a text: the characters with the
Unicode property `White_Space`. The set is wider than `Char.isWhitespace` (it has the line and
paragraph separators, the no-break spaces and the ideographic space) and leaves out look-alikes such
as the zero width space and the byte order mark.

Case is ASCII case throughout: labels, media types and keys fold `A` to `Z` only.
-/

namespace TypedImport.Text

/-- **The code points of `White_Space`**, as closed ranges. -/
def blankRanges : List (Nat × Nat) :=
  [(0x09, 0x0d), (0x20, 0x20), (0x85, 0x85), (0xa0, 0xa0), (0x1680, 0x1680), (0x2000, 0x200a),
   (0x2028, 0x2029), (0x202f, 0x202f), (0x205f, 0x205f), (0x3000, 0x3000)]

/-- Whether a character is white space. -/
def isBlank (c : Char) : Bool :=
  blankRanges.any fun r => r.1 ≤ c.toNat && c.toNat ≤ r.2

def trimEndChars (s : List Char) : List Char :=
  (s.reverse.dropWhile isBlank).reverse

/-- A list of characters without the blanks at either end. -/
def trimChars (s : List Char) : List Char :=
  trimEndChars (s.dropWhile isBlank)

/-- A text without the blanks at either end. -/
def trim (s : String) : String :=
  String.ofList (trimChars s.toList)

/-- A text with `A` to `Z` folded to `a` to `z`; every other character is kept. -/
def lower (s : String) : String :=
  String.ofList (s.toList.map Char.toLower)

/-- Whether two texts are equal up to ASCII case. -/
def sameLetters (s t : String) : Bool :=
  lower s == lower t

/-- Every character of one kind replaced by another. -/
def replaceChar (a b : Char) (s : String) : String :=
  String.ofList (s.toList.map fun c => if c = a then b else c)

/-- Whether nothing but blanks is left of a text. -/
def isBlankText (s : String) : Bool :=
  s.toList.all isBlank

theorem isBlank_of_isWhitespace {c : Char} (h : c.isWhitespace = true) : isBlank c = true := by
  simp only [Char.isWhitespace, Bool.or_eq_true, decide_eq_true_eq] at h
  rcases h with ((rfl | rfl) | rfl) | rfl <;> decide

end TypedImport.Text
