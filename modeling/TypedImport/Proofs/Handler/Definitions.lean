import Mathlib.Algebra.Ring.Nat
import Mathlib.Data.List.Induction
import Mathlib.Data.List.Perm.Basic
import TypedImport.Handler.Registry

/-!
# The definitions of a registry

A registry is what the log of its definitions says. `Valid` tells which definitions are made, and `listed`
the types that such a definition is written down with. The default of a type is the last definition of the
log that lists it (`latest`), and the entries are the log itself with every type taken out of all the
definitions but the last that lists it (`surviving`).

**Agreement.** `Follows` says of a registry that both of its views are read off one log. A definition keeps it
(`Follows.add`). Nothing else is needed to compare the two views: the entries list no type twice, and list
those that have a default.
-/

namespace TypedImport

namespace Registry

variable {r : Registry} {log : List Entry} {types : List String} {handler : Handler} {t : String}
  {e : Entry} {d : Descriptor}

/-! ## Which definitions are made -/

/-- **A definition is valid**: it lists a type, and every type in it is one and is supported by the
handler. -/
def Valid (types : List String) (handler : Handler) : Prop :=
  types ≠ [] ∧ ∀ t ∈ types, Text.trim t ≠ "" ∧ handler.supports (Text.trim t) = true

instance (types : List String) (handler : Handler) : Decidable (Valid types handler) :=
  inferInstanceAs (Decidable (_ ∧ _))

/-- **The types that a definition is written down with**: trimmed, and each where it comes first. -/
def listed (types : List String) : List String :=
  (types.map Text.trim).eraseDups

theorem nodup_eraseDups (l : List String) : l.eraseDups.Nodup := by
  induction l using List.reverseRecOn with
  | nil => simp
  | append_singleton l a ih =>
    rw [List.eraseDups_append, List.nodup_append]
    by_cases ha : a ∈ l
    · simp [List.removeAll, ha, ih]
    · have hne : ∀ b ∈ l, ¬ b = a := by
        intro b hb heq
        exact ha (heq ▸ hb)
      simpa [List.removeAll, ha, ih, List.eraseDups_cons] using hne

theorem eraseDups_of_nodup {l : List String} (h : l.Nodup) : l.eraseDups = l := by
  induction l with
  | nil => rfl
  | cons a l ih =>
    obtain ⟨ha, hl⟩ := List.nodup_cons.1 h
    have hrest : (l.filter fun b => !b == a) = l := by
      rw [List.filter_eq_self]
      intro b hb
      have hne : ¬ b = a := by
        intro heq
        exact ha (heq ▸ hb)
      simpa using hne
    rw [List.eraseDups_cons, hrest, ih hl]

theorem nodup_listed (types : List String) : (listed types).Nodup :=
  nodup_eraseDups _

theorem listed_ne_nil (h : Valid types handler) : listed types ≠ [] := by
  obtain ⟨t, ht⟩ := List.exists_mem_of_ne_nil _ h.1
  have hmem : Text.trim t ∈ listed types := List.mem_eraseDups.2 (List.mem_map_of_mem ht)
  exact List.ne_nil_of_mem hmem

/-- A type is added to those read before it unless it is among them. -/
theorem eraseDups_concat {read : List String} (h : read.Nodup) (t : String) :
    (read ++ [t]).eraseDups = if read.contains t then read else read ++ [t] := by
  rw [List.eraseDups_append, eraseDups_of_nodup h]
  by_cases ht : t ∈ read
  · simp [List.removeAll, ht]
  · simp [List.removeAll, ht, List.eraseDups_cons]

/-- Repetitions may be left out of the front part of a list first. -/
theorem eraseDups_eraseDups_append (front rest : List String) :
    (front.eraseDups ++ rest).eraseDups = (front ++ rest).eraseDups := by
  have hsame : rest.removeAll front.eraseDups = rest.removeAll front := by
    unfold List.removeAll
    apply List.filter_congr
    intro t _
    simp
  rw [List.eraseDups_append, List.eraseDups_append, hsame, eraseDups_of_nodup (nodup_eraseDups front)]

/-- What reading the types of a definition gives, after some have been read. -/
theorem readTypes_eq_ok_iff {read out : List String} (hread : read.Nodup) :
    readTypes handler read types = .ok out ↔
      (∀ t ∈ types, Text.trim t ≠ "" ∧ handler.supports (Text.trim t) = true) ∧
        (read ≠ [] ∨ types ≠ []) ∧ out = (read ++ types.map Text.trim).eraseDups := by
  induction types generalizing read with
  | nil =>
    cases read with
    | nil => simp [readTypes]
    | cons a read =>
      have hout : Except.ok (a :: read) = (Except.ok out : Except RegistryFault _) ↔ out = a :: read := by
        rw [Except.ok.injEq, eq_comm]
      simpa [readTypes, eraseDups_of_nodup hread] using hout
  | cons t rest ih =>
    unfold readTypes
    by_cases hempty : Text.trim t = ""
    · simp [hempty]
    by_cases hsupports : handler.supports (Text.trim t) = true
    · have hnodup := nodup_eraseDups (read ++ [Text.trim t])
      have hall : (read ++ [Text.trim t] ++ rest.map Text.trim) =
          read ++ (t :: rest).map Text.trim := by simp
      have hne : (read ++ [Text.trim t]).eraseDups ≠ [] :=
        List.ne_nil_of_mem (List.mem_eraseDups.2 (List.mem_append_right _ (List.mem_singleton_self _)))
      have step := ih hnodup
      rw [eraseDups_eraseDups_append, hall, eraseDups_concat hread] at step
      rw [eraseDups_concat hread] at hne
      simp only [hempty, hsupports, String.isEmpty_iff, if_false, Bool.not_true, Bool.false_eq_true]
      rw [step, List.forall_mem_cons]
      exact ⟨fun h => ⟨⟨⟨hempty, hsupports⟩, h.1⟩, .inr (List.cons_ne_nil _ _), h.2.2⟩,
        fun h => ⟨h.1.2, .inl hne, h.2.2⟩⟩
    · simp [hempty, hsupports]

/-- **A valid definition is made**, with its types written down. -/
theorem define_of_valid (h : Valid types handler) (r : Registry) :
    r.define types handler =
      .ok (.registry r.defined handler (listed types), r.add (listed types) handler) := by
  have hread : readTypes handler [] types = .ok (listed types) :=
    (readTypes_eq_ok_iff List.nodup_nil).2 ⟨h.2, .inr h.1, rfl⟩
  unfold define
  rw [hread]

/-- Any other is refused. -/
theorem define_of_not_valid (h : ¬ Valid types handler) (r : Registry) :
    ∃ fault, r.define types handler = .error fault := by
  unfold define
  cases hread : readTypes handler [] types with
  | error fault => exact ⟨fault, rfl⟩
  | ok out =>
    obtain ⟨hall, hne, -⟩ := (readTypes_eq_ok_iff List.nodup_nil).1 hread
    exact absurd ⟨hne.resolve_left (· rfl), hall⟩ h

/-- **A definition is made just if it is valid**, and then with its types written down. -/
theorem define_eq_ok_iff {registry : Registry} :
    r.define types handler = .ok (d, registry) ↔
      Valid types handler ∧ d = .registry r.defined handler (listed types) ∧
        registry = r.add (listed types) handler := by
  constructor
  · intro defined
    by_cases hvalid : Valid types handler
    · rw [define_of_valid hvalid] at defined
      cases defined
      exact ⟨hvalid, rfl, rfl⟩
    · obtain ⟨fault, hfault⟩ := define_of_not_valid hvalid r
      rw [hfault] at defined
      cases defined
  · rintro ⟨hvalid, rfl, rfl⟩
    exact define_of_valid hvalid r

theorem forType?_add (r : Registry) (types : List String) (handler : Handler) (t : String) :
    (r.add types handler).forType? t =
      if t ∈ types then some (.registry r.defined handler types) else r.forType? t :=
  Table.get?_foldl_put ..

/-- **After a definition a default is that of the definition**, which is valid, or was there before. -/
theorem forType?_of_define {d' : Descriptor} {registry : Registry}
    (defined : r.define types handler = .ok (d', registry)) (h : registry.forType? t = some d) :
    (Valid types handler ∧ d = .registry r.defined handler (listed types)) ∨ r.forType? t = some d := by
  obtain ⟨hvalid, -, rfl⟩ := define_eq_ok_iff.1 defined
  rw [forType?_add] at h
  split at h
  · cases h
    exact .inl ⟨hvalid, rfl⟩
  · exact .inr h

/-! ## What a log says -/

/-- **The last definition of a log that lists a type.** -/
def latest (log : List Entry) (t : String) : Option Entry :=
  log.reverse.find? fun e => e.types.contains t

theorem latest_concat (log : List Entry) (e : Entry) (t : String) :
    latest (log ++ [e]) t = if t ∈ e.types then some e else latest log t := by
  unfold latest
  rw [List.reverse_concat, List.find?_cons]
  by_cases ht : t ∈ e.types <;> simp [ht]

/-- **The entries of a log**: its definitions in order, each with the types that no later one lists, and
without those that have no type left. -/
def surviving : List Entry → List Entry
  | [] => []
  | e :: later =>
    let own := e.without (later.flatMap Entry.types)
    if own.types.isEmpty then surviving later else own :: surviving later

theorem without_nil (e : Entry) : e.without [] = e := by
  simp [Entry.without]

theorem without_without (e : Entry) (taken taken' : List String) :
    (e.without taken).without taken' = e.without (taken ++ taken') := by
  simp only [Entry.without, List.filter_filter]
  congr 1
  apply List.filter_congr
  intro t _
  simp [Bool.and_comm]

theorem isEmpty_without {taken : List String} (h : e.types.isEmpty = true) :
    (e.without taken).types.isEmpty = true := by
  rw [List.isEmpty_iff] at h
  simp [Entry.without, h]

/-- One definition more takes its types from all the others. -/
theorem surviving_concat (log : List Entry) (hne : e.types ≠ []) :
    surviving (log ++ [e]) = entriesAfter (surviving log) e.types e.descriptor := by
  induction log with
  | nil => simp [surviving, entriesAfter, without_nil, hne]
  | cons first later ih =>
    have htaken : (later ++ [e]).flatMap Entry.types = later.flatMap Entry.types ++ e.types := by simp
    simp only [List.cons_append, surviving, htaken, ← without_without]
    by_cases hfirst : (first.without (later.flatMap Entry.types)).types.isEmpty = true
    · rw [if_pos (isEmpty_without hfirst), if_pos hfirst, ih]
    · rw [if_neg hfirst, ih]
      unfold entriesAfter
      rw [List.map_cons, List.filter_cons]
      split <;> simp_all

theorem latest_cons (e : Entry) (later : List Entry) (t : String) :
    latest (e :: later) t = (latest later t).or (if t ∈ e.types then some e else none) := by
  unfold latest
  rw [List.reverse_cons, List.find?_append]
  by_cases ht : t ∈ e.types <;> simp [ht]

theorem latest_eq_none_iff : latest log t = none ↔ t ∉ log.flatMap Entry.types := by
  unfold latest
  rw [List.find?_eq_none]
  simp

/-- **A type is among the entries of a log with the definition that is the last to list it.** -/
theorem exists_mem_surviving_iff :
    (∃ e ∈ surviving log, t ∈ e.types ∧ e.descriptor = d) ↔
      (latest log t).map Entry.descriptor = some d := by
  induction log with
  | nil => simp [surviving, latest]
  | cons first later ih =>
    have hmem : (∃ e ∈ surviving (first :: later), t ∈ e.types ∧ e.descriptor = d) ↔
        (t ∈ (first.without (later.flatMap Entry.types)).types ∧ first.descriptor = d) ∨
          ∃ e ∈ surviving later, t ∈ e.types ∧ e.descriptor = d := by
      simp only [surviving]
      split
      next hnone =>
        rw [List.isEmpty_iff] at hnone
        simp [hnone]
      next => exact List.exists_mem_cons_iff ..
    have hown : t ∈ (first.without (later.flatMap Entry.types)).types ↔
        t ∈ first.types ∧ latest later t = none := by
      rw [latest_eq_none_iff]
      simp [Entry.without]
    rw [hmem, ih, hown, latest_cons]
    cases latest later t with
    | none => by_cases ht : t ∈ first.types <;> simp [ht]
    | some e => simp

theorem types_ne_nil_of_mem_surviving (h : e ∈ surviving log) : e.types ≠ [] := by
  induction log with
  | nil => simp [surviving] at h
  | cons first later ih =>
    simp only [surviving] at h
    split at h
    next => exact ih h
    next hne =>
      rcases List.mem_cons.1 h with rfl | hlater
      · exact fun hnil => hne (List.isEmpty_iff.2 hnil)
      · exact ih hlater

/-- **The entries of a log list no type twice**, neither in one of them nor in two. -/
theorem nodup_surviving (h : ∀ e ∈ log, e.types.Nodup) :
    ((surviving log).flatMap Entry.types).Nodup := by
  induction log with
  | nil => simp [surviving]
  | cons first later ih =>
    have hlater := ih fun e he => h e (List.mem_cons_of_mem _ he)
    simp only [surviving]
    split
    next => exact hlater
    next =>
      rw [List.flatMap_cons, List.nodup_append]
      refine ⟨(h first List.mem_cons_self).filter _, hlater, ?_⟩
      intro t hfirst t' ht' hsame
      subst hsame
      -- a type that is left to the first definition is listed by no later one
      obtain ⟨e, he, hte⟩ := List.mem_flatMap.1 ht'
      have hlatest := exists_mem_surviving_iff.1 ⟨e, he, hte, rfl⟩
      have hnone : latest later t = none := by
        rw [latest_eq_none_iff]
        have hleft : t ∈ first.types ∧ t ∉ later.flatMap Entry.types := by
          simpa [Entry.without] using hfirst
        exact hleft.2
      rw [hnone] at hlatest
      cases hlatest

/-! ## Both views -/

/-- **A registry follows a log of definitions**: the default of a type is the last that lists it, and the
entries are those of the log. -/
structure Follows (r : Registry) (log : List Entry) : Prop where
  defined : r.defined = log.length
  default : ∀ t, r.forType? t = (latest log t).map Entry.descriptor
  entries : r.entries = surviving log
  distinct : r.byType.Distinct

theorem follows_empty : empty.Follows [] where
  defined := rfl
  default _ := rfl
  entries := rfl
  distinct := Table.Distinct.nil

theorem distinct_foldl_put {table : Table String Descriptor} (h : table.Distinct)
    (keys : List String) (d : Descriptor) :
    Table.Distinct (keys.foldl (fun table t => table.put t d) table) := by
  induction keys generalizing table with
  | nil => exact h
  | cons t rest ih => exact ih (h.put t d)

/-- **A definition of the registry is one more in the log.** -/
theorem Follows.add (h : r.Follows log) (hne : types ≠ []) (handler : Handler) :
    (r.add types handler).Follows (log ++ [⟨types, .registry log.length handler types⟩]) where
  defined := by simp [Registry.add, h.defined]
  default t := by
    rw [forType?_add, latest_concat, h.default, h.defined]
    split <;> rfl
  entries := by
    rw [surviving_concat log hne, ← h.entries, ← h.defined]
    rfl
  distinct := distinct_foldl_put h.distinct types _

/-- **Both views of a registry tell the same**: an entry lists a type if it has the type's default. -/
theorem Follows.forType?_eq_some_iff (h : r.Follows log) :
    r.forType? t = some d ↔ ∃ e ∈ r.entries, t ∈ e.types ∧ e.descriptor = d := by
  rw [h.default, h.entries, exists_mem_surviving_iff]

/-- There are as many types with a default as the entries list. -/
theorem Follows.size_eq (h : r.Follows log) (hlog : ∀ e ∈ log, e.types.Nodup) :
    r.size = (r.entries.map fun e => e.types.length).sum := by
  have hentries : (r.entries.flatMap Entry.types).Nodup := h.entries ▸ nodup_surviving hlog
  have hsame : ∀ t, t ∈ r.byType.map Prod.fst ↔ t ∈ r.entries.flatMap Entry.types := by
    intro t
    have hkey : t ∈ r.byType.map Prod.fst ↔ ∃ d, r.forType? t = some d := by
      simp [forType?, h.distinct.get?_eq_some_iff]
    simp only [hkey, h.forType?_eq_some_iff, List.mem_flatMap]
    exact ⟨fun ⟨_, e, he, ht, _⟩ => ⟨e, he, ht⟩, fun ⟨e, he, ht⟩ => ⟨_, e, he, ht, rfl⟩⟩
  have hperm := (List.perm_ext_iff_of_nodup h.distinct hentries).2 hsame
  calc r.size = (r.byType.map Prod.fst).length := (List.length_map ..).symm
    _ = (r.entries.flatMap Entry.types).length := hperm.length_eq
    _ = _ := List.length_flatMap

end Registry

end TypedImport
