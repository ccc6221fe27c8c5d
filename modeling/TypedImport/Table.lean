/-!
# Tables

A table is a list of keys with values, with at most one entry a key as long as entries are only put and
erased. What is in a table is told by `get?`; the order of the entries has no meaning.

**Laws.** Putting and erasing a key changes what is found at that key only (`get?_put`, `get?_erase`),
keeps the keys distinct (`Distinct.put`, `Distinct.filter`).
-/

namespace TypedImport

/-- **A table of values by keys.** -/
abbrev Table (α β : Type) := List (α × β)

namespace Table

/-- That no key has two entries. -/
def Distinct {α β : Type} (t : Table α β) : Prop :=
  (t.map Prod.fst).Nodup

theorem Distinct.nil {α β : Type} : Distinct ([] : Table α β) := List.nodup_nil

theorem Distinct.filter {α β : Type} {t : Table α β} (h : t.Distinct) (p : α × β → Bool) :
    Distinct (show Table α β from t.filter p) :=
  (List.filter_sublist.map Prod.fst).nodup h

variable {α β : Type} [DecidableEq α]

/-- The value at a key. -/
def get? (t : Table α β) (key : α) : Option β :=
  match t with
  | [] => none
  | (k, v) :: rest => if k = key then some v else get? rest key

def erase (t : Table α β) (key : α) : Table α β :=
  t.filter fun entry => entry.1 ≠ key

/-- **The table with a value at a key**, in place of one that was there. -/
def put (t : Table α β) (key : α) (value : β) : Table α β :=
  (key, value) :: t.erase key

/-- Whether there is a value at a key. -/
def has (t : Table α β) (key : α) : Bool :=
  (t.get? key).isSome

@[simp] theorem get?_nil (key : α) : get? ([] : Table α β) key = none := rfl

theorem get?_cons (k : α) (v : β) (t : Table α β) (key : α) :
    get? ((k, v) :: t) key = if k = key then some v else t.get? key := rfl

@[simp] theorem get?_erase_self (t : Table α β) (key : α) : (t.erase key).get? key = none := by
  induction t with
  | nil => rfl
  | cons entry rest ih =>
    obtain ⟨k, v⟩ := entry
    by_cases h : k = key
    · simpa [erase, List.filter_cons, h] using ih
    · simpa [erase, List.filter_cons, h, get?_cons] using ih

theorem get?_erase_of_ne (t : Table α β) {key other : α} (h : other ≠ key) :
    (t.erase key).get? other = t.get? other := by
  induction t with
  | nil => rfl
  | cons entry rest ih =>
    obtain ⟨k, v⟩ := entry
    by_cases hk : k = key
    · have : ¬ k = other := fun e => h (e ▸ hk)
      simpa [erase, List.filter_cons, hk, get?_cons, this, Ne.symm h] using ih
    · by_cases ho : k = other
      · simp [erase, get?_cons, ho, h]
      · simpa [erase, List.filter_cons, hk, get?_cons, ho] using ih

@[simp] theorem get?_put_self (t : Table α β) (key : α) (value : β) :
    (t.put key value).get? key = some value := by
  simp [put, get?_cons]

theorem get?_put_of_ne (t : Table α β) {key other : α} (value : β) (h : other ≠ key) :
    (t.put key value).get? other = t.get? other := by
  simp [put, get?_cons, Ne.symm h, get?_erase_of_ne t h]

theorem get?_put (t : Table α β) (key other : α) (value : β) :
    (t.put key value).get? other = if other = key then some value else t.get? other := by
  split
  · next h => rw [h, get?_put_self]
  · next h => exact get?_put_of_ne t value h

theorem get?_erase (t : Table α β) (key other : α) :
    (t.erase key).get? other = if other = key then none else t.get? other := by
  split
  · next h => rw [h, get?_erase_self]
  · next h => exact get?_erase_of_ne t h

/-- One value put at many keys is found at each of them. -/
theorem get?_foldl_put (t : Table α β) (keys : List α) (value : β) (other : α) :
    (keys.foldl (fun t key => t.put key value) t).get? other =
      if other ∈ keys then some value else t.get? other := by
  induction keys generalizing t with
  | nil => simp
  | cons key rest ih =>
    rw [List.foldl_cons, ih, get?_put]
    by_cases hrest : other ∈ rest
    · simp [hrest]
    · simp [hrest, List.mem_cons]

theorem mem_of_get? {t : Table α β} {key : α} {value : β} (h : t.get? key = some value) :
    (key, value) ∈ t := by
  induction t with
  | nil => simp at h
  | cons entry rest ih =>
    obtain ⟨k, v⟩ := entry
    rw [get?_cons] at h
    split at h
    · next hk =>
      cases h
      simp [hk]
    · exact List.mem_cons_of_mem _ (ih h)

theorem Distinct.erase {t : Table α β} (h : t.Distinct) (key : α) : (t.erase key).Distinct :=
  h.filter _

theorem Distinct.put {t : Table α β} (h : t.Distinct) (key : α) (value : β) :
    (t.put key value).Distinct := by
  have hr := h.erase key
  unfold Distinct at hr ⊢
  simp only [Table.put, List.map_cons, List.nodup_cons]
  refine ⟨?_, hr⟩
  simp [Table.erase]

theorem get?_eq_none_of_forall {t : Table α β} {key : α} (h : ∀ entry ∈ t, entry.1 ≠ key) :
    t.get? key = none := by
  cases hk : t.get? key with
  | none => rfl
  | some value => exact absurd rfl (h _ (mem_of_get? hk))

/-- In a table of distinct keys what is found at a key is looked at by itself when entries are left
out. -/
theorem Distinct.get?_filter {t : Table α β} (h : t.Distinct) (p : α × β → Bool) (key : α) :
    get? (show Table α β from t.filter p) key = (t.get? key).filter fun value => p (key, value) := by
  induction t with
  | nil => rfl
  | cons entry rest ih =>
    obtain ⟨k, v⟩ := entry
    unfold Distinct at h
    simp only [List.map_cons, List.nodup_cons] at h
    have hr := ih h.2
    by_cases hk : k = key
    · subst hk
      have hnone : get? rest k = none :=
        get?_eq_none_of_forall fun e he heq => h.1 (List.mem_map.2 ⟨e, he, heq⟩)
      by_cases hp : p (k, v) = true
      · simp [hp, get?_cons, Option.filter_some]
      · simp only [Bool.not_eq_true] at hp
        simpa [hp, get?_cons, hnone, Option.filter_some] using hr
    · by_cases hp : p (k, v) = true
      · simpa [hp, get?_cons, hk] using hr
      · simp only [Bool.not_eq_true] at hp
        simpa [hp, get?_cons, hk] using hr

/-- In a table of distinct keys an entry is what is found at its key. -/
theorem Distinct.get?_eq_some_iff {t : Table α β} (h : t.Distinct) {key : α} {value : β} :
    t.get? key = some value ↔ (key, value) ∈ t := by
  refine ⟨mem_of_get?, fun hm => ?_⟩
  induction t with
  | nil => simp at hm
  | cons entry rest ih =>
    obtain ⟨k, v⟩ := entry
    unfold Distinct at h
    simp only [List.map_cons, List.nodup_cons] at h
    rw [get?_cons]
    rcases List.mem_cons.1 hm with heq | hin
    · cases heq
      simp
    · have hne : ¬ k = key := by
        intro e
        subst e
        exact h.1 (List.mem_map.2 ⟨(k, value), hin, rfl⟩)
      rw [if_neg hne]
      exact ih h.2 hin

end Table

end TypedImport
