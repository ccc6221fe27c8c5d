import TypedImport.Number.Binary64

/-!
# Values

What handlers produce and modules export: null, truth values, numbers, texts, lists, and objects whose
fields are kept in the order of their names with one field a name.

A whole number is kept exactly; it fits 64 bits, with or without a sign. Every other number is a
double precision number and finite.
-/

namespace TypedImport

/-- **A value.** -/
inductive Value where
  | null
  | bool (b : Bool)
  /-- A whole number from `-2 ^ 63` to `2 ^ 64 - 1`. -/
  | int (n : Int)
  | float (x : Binary64)
  | string (s : String)
  | array (items : List Value)
  /-- Fields in increasing order of their names. -/
  | object (fields : List (String × Value))
  deriving Inhabited, Repr, BEq

/-- Fields of an object or exports of a module, in increasing order of their names. -/
abbrev Fields := List (String × Value)

namespace Fields

/-- **Puts a field in its place**, replacing one of the same name. -/
def insert (name : String) (value : Value) : Fields → Fields
  | [] => [(name, value)]
  | (other, old) :: rest =>
    if name = other then (name, value) :: rest
    else if name < other then (name, value) :: (other, old) :: rest
    else (other, old) :: insert name value rest

/-- Fields in any order put in place one after the other: of two fields of one name the later stays. -/
def ofList (fields : List (String × Value)) : Fields :=
  fields.foldl (fun done field => done.insert field.1 field.2) []

def get? (fields : Fields) (name : String) : Option Value :=
  fields.lookup name

theorem get?_insert_self (fields : Fields) (name : String) (value : Value) :
    (fields.insert name value).get? name = some value := by
  induction fields with
  | nil => simp [insert, get?]
  | cons head rest ih =>
    obtain ⟨other, old⟩ := head
    unfold insert
    split
    · simp [get?]
    · split
      · simp [get?]
      · rename_i hne _
        simp only [get?, List.lookup_cons] at ih ⊢
        have : (name == other) = false := by simpa using hne
        simp [this, ih]

theorem get?_insert_of_ne (fields : Fields) {name other : String} (value : Value)
    (h : other ≠ name) : (fields.insert name value).get? other = fields.get? other := by
  have hb : (other == name) = false := by simpa using h
  induction fields with
  | nil => simp [insert, get?, List.lookup_cons, hb]
  | cons head rest ih =>
    obtain ⟨k, old⟩ := head
    unfold insert
    split
    · rename_i hk
      subst hk
      simp [get?, List.lookup_cons, hb]
    · split
      · simp [get?, List.lookup_cons, hb]
      · simp only [get?, List.lookup_cons] at ih ⊢
        rw [ih]

end Fields

namespace Value

def string? : Value → Option String
  | .string s => some s
  | _ => none

/-- What a value is, in words. -/
def kind : Value → String
  | .null => "null"
  | .bool _ => "a boolean"
  | .int _ | .float _ => "a number"
  | .string _ => "a string"
  | .array _ => "an array"
  | .object _ => "an object"

def field (name : String) (value : Value) : Value :=
  .object [(name, value)]

end Value

end TypedImport
