import TypedImport.Text.Split

/-!
# Pieces of a text

Cutting a text at a separator is the library's `List.splitOn`: its laws say what the pieces are of texts put
together, and that a text is its pieces with the separator between them.

**What is attached** behind the last separator goes to the last piece (`exists_splitOn_append`), and what lies
between separators is all of the text but them (`flatten_splitOn`). The first cut alone is `cutFirst`.
-/

namespace TypedImport.Text

theorem splitChars_eq_splitOn (sep : Char) (s : List Char) : splitChars sep s = s.splitOn sep := by
  induction s with
  | nil => rfl
  | cons c rest ih =>
    rw [List.splitOn_cons_eq_if_modifyHead, ← ih, splitChars]
    by_cases h : c = sep
    · rw [if_pos h, if_pos (beq_iff_eq.2 h)]
    · rw [if_neg h, if_neg (mt beq_iff_eq.1 h)]
      cases cut : splitChars sep rest with
      | nil => exact absurd cut (splitChars_ne_nil sep rest)
      | cons piece pieces => rfl

variable {α : Type} [BEq α] {sep : α} {t : List α}

/-- **What is put behind a text** without a separator in it belongs to the last piece. -/
theorem exists_splitOn_append [LawfulBEq α] (s : List α) (h : sep ∉ t) :
    ∃ front last, s.splitOn sep = front ++ [last] ∧ (s ++ t).splitOn sep = front ++ [last ++ t] := by
  induction s with
  | nil => exact ⟨[], [], List.splitOn_nil sep, List.splitOn_eq_singleton h⟩
  | cons c rest ih =>
    obtain ⟨front, last, before, after⟩ := ih
    rw [List.cons_append, List.splitOn_cons_eq_if_modifyHead, List.splitOn_cons_eq_if_modifyHead, before, after]
    by_cases hc : (c == sep) = true
    · rw [if_pos hc, if_pos hc]
      exact ⟨[] :: front, last, rfl, rfl⟩
    · rw [if_neg hc, if_neg hc]
      cases front with
      | nil => exact ⟨[], c :: last, rfl, rfl⟩
      | cons first front => exact ⟨(c :: first) :: front, last, rfl, rfl⟩

/-- What is put before a text without a separator in it belongs to the first piece. -/
theorem splitOn_append_of_not_mem [LawfulBEq α] {front : List α} (h : sep ∉ front) (rest : List α) :
    (front ++ rest).splitOn sep = (rest.splitOn sep).modifyHead (front ++ ·) := by
  induction front with
  | nil =>
    cases cut : rest.splitOn sep with
    | nil => exact absurd cut (List.splitOn_ne_nil sep rest)
    | cons piece pieces => rw [List.nil_append, cut]; rfl
  | cons a front ih =>
    have other : ¬ (a == sep) = true := fun same => h (beq_iff_eq.1 same ▸ List.mem_cons_self)
    rw [List.cons_append, List.splitOn_cons_eq_if_modifyHead, if_neg other,
      ih fun hsep => h (List.mem_cons_of_mem _ hsep), List.modifyHead_modifyHead]
    rfl

/-- No separator stands in a piece. -/
theorem not_mem_of_mem_splitOn [LawfulBEq α] {s piece : List α} (h : piece ∈ s.splitOn sep) : sep ∉ piece := by
  induction s generalizing piece with
  | nil =>
    rw [List.splitOn_nil, List.mem_singleton] at h
    exact h ▸ List.not_mem_nil
  | cons c rest ih =>
    rw [List.splitOn_cons_eq_if_modifyHead] at h
    split at h
    next =>
      rcases List.mem_cons.1 h with rfl | later
      · exact List.not_mem_nil
      · exact ih later
    next other =>
      cases cut : rest.splitOn sep with
      | nil => exact absurd cut (List.splitOn_ne_nil sep rest)
      | cons first pieces =>
        rw [cut, List.modifyHead_cons] at h
        rcases List.mem_cons.1 h with rfl | later
        · intro inside
          rcases List.mem_cons.1 inside with same | inner
          · exact other (beq_iff_eq.2 same.symm)
          · exact ih (cut ▸ List.mem_cons_self) inner
        · exact ih (cut ▸ List.mem_cons_of_mem first later)

/-- **Pieces with a separator before each** are what is cut out again, behind an empty one. -/
theorem splitOn_flatMap_cons [LawfulBEq α] {pieces : List (List α)} (h : ∀ piece ∈ pieces, sep ∉ piece) :
    (pieces.flatMap (sep :: ·)).splitOn sep = [] :: pieces := by
  induction pieces with
  | nil => exact List.splitOn_nil sep
  | cons piece rest ih =>
    obtain ⟨clean, others⟩ := List.forall_mem_cons.1 h
    rw [List.flatMap_cons, List.cons_append, List.splitOn_cons_eq_if_modifyHead, if_pos BEq.rfl,
      splitOn_append_of_not_mem clean, ih others, List.modifyHead_cons, List.append_nil]

/-- **The pieces are all of a text but its separators.** -/
theorem flatten_splitOn [LawfulBEq α] (sep : α) (s : List α) : (s.splitOn sep).flatten = s.filter (· != sep) := by
  induction s with
  | nil => rfl
  | cons c rest ih =>
    rw [List.splitOn_cons_eq_if_modifyHead, List.filter_cons, ← ih, bne]
    by_cases same : (c == sep) = true
    · rw [if_pos same, same]
      rfl
    · rw [if_neg same, Bool.eq_false_iff.2 same]
      cases cut : rest.splitOn sep with
      | nil => exact absurd cut (List.splitOn_ne_nil sep rest)
      | cons piece pieces => rfl

/-! ## The first cut -/

/-- **The first cut** is made where no separator stands before. -/
theorem cutFirst_append_cons {sep : Char} {front : List Char} (h : sep ∉ front) (rest : List Char) :
    cutFirst sep (front ++ sep :: rest) = some (front, rest) := by
  have others : ∀ c ∈ front, (c != sep) = true := fun c hc => bne_iff_ne.2 fun same => h (same ▸ hc)
  rw [cutFirst, List.dropWhile_append_of_pos others, List.takeWhile_append_of_pos others,
    List.dropWhile_cons_of_neg (by simp), List.takeWhile_cons_of_neg (by simp), List.append_nil]

theorem cutFirst_of_not_mem {sep : Char} {s : List Char} (h : sep ∉ s) : cutFirst sep s = none := by
  have all : (s ++ []).dropWhile (· != sep) = [] :=
    List.dropWhile_append_of_pos fun c hc => bne_iff_ne.2 fun same => h (same ▸ hc)
  rw [List.append_nil] at all
  rw [cutFirst, all]

end TypedImport.Text
