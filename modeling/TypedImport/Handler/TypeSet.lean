import TypedImport.Text.Split

/-!
# Sets of asserted types

The types that a handler declares, each once and in order. A handler that declares none takes every
type.
-/

namespace TypedImport

/-- Type names in increasing order, each once. -/
abbrev TypeSet := List String

namespace TypeSet

/-- The set with one more type. -/
def insert (t : String) : TypeSet → TypeSet
  | [] => [t]
  | s :: rest => if t = s then s :: rest else if t < s then t :: s :: rest else s :: insert t rest

def ofList (types : List String) : TypeSet :=
  types.foldl (fun set t => insert t set) []

/-- **Whether a declared set admits a type.** -/
def admits (set : TypeSet) (t : String) : Bool :=
  set.isEmpty || set.contains t

@[simp] theorem mem_insert {a t : String} {set : TypeSet} :
    a ∈ insert t set ↔ a = t ∨ a ∈ set := by
  induction set with
  | nil => simp [insert]
  | cons s rest ih =>
    unfold insert
    split
    · rename_i h
      subst h
      simp
    · split
      · simp
      · simp [ih, or_left_comm]

theorem mem_foldl_insert {a : String} (types : List String) (set : TypeSet) :
    a ∈ types.foldl (fun set t => insert t set) set ↔ a ∈ types ∨ a ∈ set := by
  induction types generalizing set with
  | nil => simp
  | cons t rest ih => simp [ih, or_left_comm, or_assoc]

@[simp] theorem mem_ofList {a : String} {types : List String} : a ∈ ofList types ↔ a ∈ types := by
  simp [ofList, mem_foldl_insert]

end TypeSet

end TypedImport
