import Mathlib.Data.List.Nodup
import TypedImport.Import.Request

/-!
# Assertions from pairs

Which pairs of a key and a value spell an assertion, and what is told of the others. Pairs are `Clean` if each key is
one that there is and stands once; they spell an assertion if a type is among them besides. Then the assertion holds
what the pairs give (`Given`), and their order does not count.

**The first offence** ends the reading: a key that there is not, or one that stood before. What is told is that key and
the type so far, whatever comes behind (`writeAll_of_offence`). The proof carries along what the slots hold of the pairs
that were read (`Slots.Holds`).
-/

namespace TypedImport.Assertion

/-- The keys that there are. -/
def keys : List String := ["type", "handler", "encoding"]

/-- **Pairs without an offence.** -/
structure Clean (pairs : List (String × String)) : Prop where
  known : ∀ key ∈ pairs.map Prod.fst, key ∈ keys
  once : (pairs.map Prod.fst).Nodup

/-- **What is wrong with a key** behind other pairs. -/
inductive Offence (before : List (String × String)) (key : String) : AssertionFault → Prop
  | unknown (other : key ∉ keys) : Offence before key (.unsupportedKey key)
  | repeated (known : key ∈ keys) (seen : key ∈ before.map Prod.fst) : Offence before key (.duplicateKey key)

/-- **The type so far**, which is empty if no pair gives one. -/
def TypeSoFar (pairs : List (String × String)) (type : String) : Prop :=
  ("type", type) ∈ pairs ∨ "type" ∉ pairs.map Prod.fst ∧ type = ""

/-- **An assertion holds what pairs give**, and nothing else. -/
structure Given (pairs : List (String × String)) (a : Assertion) : Prop where
  type : ∀ type, a.type = type ↔ ("type", type) ∈ pairs
  handler : ∀ path, a.handler = .module path ↔ ("handler", path) ∈ pairs
  absent : a.handler = .absent ↔ "handler" ∉ pairs.map Prod.fst
  encoding : ∀ label, a.encoding = some label ↔ ("encoding", label) ∈ pairs

variable {pairs before after other : List (String × String)} {key value : String} {fault : AssertionFault}
  {slots : Slots} {a b : Assertion}

/-! ## Offences -/

theorem mem_keys_iff : key ∈ pairs.map Prod.fst ↔ ∃ value, (key, value) ∈ pairs := by
  simp

theorem Clean.nil : Clean [] := ⟨by simp, List.nodup_nil⟩

theorem Clean.front (clean : Clean (before ++ after)) : Clean before := by
  obtain ⟨known, once⟩ := clean
  rw [List.map_append] at known once
  exact ⟨fun key hkey => known key (List.mem_append_left _ hkey), (List.nodup_append.1 once).1⟩

/-- A key that is no offence is one that there is, and has not stood before. -/
theorem not_offence_iff : (∀ fault, ¬ Offence before key fault) ↔ key ∈ keys ∧ key ∉ before.map Prod.fst := by
  constructor
  · intro none
    have known : key ∈ keys := by
      by_contra other
      exact none _ (.unknown other)
    exact ⟨known, fun seen => none _ (.repeated known seen)⟩
  · rintro ⟨known, new⟩ fault offence
    cases offence with
    | unknown other => exact other known
    | repeated _ seen => exact new seen

theorem clean_concat_iff : Clean (before ++ [(key, value)]) ↔ Clean before ∧ ∀ fault, ¬ Offence before key fault := by
  have disjoint : (∀ k ∈ before.map Prod.fst, ∀ last ∈ [key], k ≠ last) ↔ key ∉ before.map Prod.fst := by
    simp only [List.mem_singleton, forall_eq]
    exact ⟨fun h seen => h key seen rfl, fun new k hk same => new (same ▸ hk)⟩
  rw [not_offence_iff]
  constructor
  · intro clean
    have known := clean.known key (mem_keys_iff.2 ⟨value, List.mem_append_right _ (List.mem_singleton_self _)⟩)
    have once := clean.once
    rw [List.map_append] at once
    exact ⟨clean.front, known, disjoint.1 (List.nodup_append.1 once).2.2⟩
  · rintro ⟨⟨known, once⟩, hkey, new⟩
    constructor
    · intro k hk
      rw [List.map_append, List.mem_append] at hk
      rcases hk with old | last
      · exact known k old
      · rw [List.mem_singleton.1 last]
        exact hkey
    · rw [List.map_append]
      exact List.nodup_append.2 ⟨once, List.nodup_singleton key, disjoint.2 new⟩

/-- Pairs behind clean ones are clean with them, or there is a first offence among them. -/
theorem clean_or_offence (clean : Clean before) (rest : List (String × String)) :
    Clean (before ++ rest) ∨ ∃ front key value after fault, before ++ rest = front ++ (key, value) :: after ∧
      Clean front ∧ Offence front key fault := by
  induction rest generalizing before with
  | nil => exact .inl (by rwa [List.append_nil])
  | cons pair rest ih =>
    obtain ⟨key, value⟩ := pair
    by_cases offence : ∃ fault, Offence before key fault
    · obtain ⟨fault, offence⟩ := offence
      exact .inr ⟨before, key, value, rest, fault, rfl, clean, offence⟩
    · have next : Clean (before ++ [(key, value)]) := clean_concat_iff.2 ⟨clean, not_exists.1 offence⟩
      simpa using ih next

/-- **Pairs are clean or have a first offence.** -/
theorem exists_offence (h : ¬ Clean pairs) :
    ∃ before key value after fault, pairs = before ++ (key, value) :: after ∧ Clean before ∧ Offence before key fault :=
  (clean_or_offence .nil pairs).resolve_left h

theorem Clean.perm (clean : Clean pairs) (perm : pairs.Perm other) : Clean other := by
  have same := perm.map Prod.fst
  exact ⟨fun key hkey => clean.known key (same.mem_iff.2 hkey), same.nodup_iff.1 clean.once⟩

/-! ## Slots -/

namespace Slots

/-- The slot of a key. -/
def get (slots : Slots) (key : String) : Option String :=
  if key = "type" then slots.type
  else if key = "handler" then slots.handler
  else if key = "encoding" then slots.encoding
  else none

/-- The slots with a value in the slot of a key. -/
def put (slots : Slots) (key value : String) : Slots :=
  if key = "type" then { slots with type := some value }
  else if key = "handler" then { slots with handler := some value }
  else if key = "encoding" then { slots with encoding := some value }
  else slots

theorem get_put_self (known : key ∈ keys) : (slots.put key value).get key = some value := by
  simp only [keys, List.mem_cons, List.not_mem_nil, or_false] at known
  rcases known with rfl | rfl | rfl <;> rfl

theorem get_put_of_ne {k : String} (h : k ≠ key) : (slots.put key value).get k = slots.get k := by
  unfold get put
  grind

/-- **A write** goes to a slot that there is and that is free. -/
theorem write_eq :
    slots.write key value =
      if key ∉ keys then .error (.unsupportedKey key)
      else if (slots.get key).isSome then .error (.duplicateKey key)
      else .ok (slots.put key value) := by
  by_cases known : key ∈ keys
  · rw [if_neg (not_not.2 known)]
    simp only [keys, List.mem_cons, List.not_mem_nil, or_false] at known
    rcases known with rfl | rfl | rfl <;> rfl
  · rw [if_pos known]
    simp only [keys, List.mem_cons, List.not_mem_nil, or_false, not_or] at known
    rw [write, if_neg known.1, if_neg known.2.1, if_neg known.2.2]

/-- **Slots hold pairs**: in the slot of a key is the value that a pair gives. -/
def Holds (slots : Slots) (pairs : List (String × String)) : Prop :=
  ∀ key ∈ keys, ∀ value, slots.get key = some value ↔ (key, value) ∈ pairs

theorem Holds.isSome_iff (holds : slots.Holds pairs) (known : key ∈ keys) :
    (slots.get key).isSome ↔ key ∈ pairs.map Prod.fst := by
  rw [mem_keys_iff, Option.isSome_iff_exists]
  exact exists_congr (holds key known)

/-- **A pair is written** if its key is no offence, and the slots hold it too. -/
theorem Holds.write (holds : slots.Holds before) (none : ∀ fault, ¬ Offence before key fault) (value : String) :
    slots.write key value = .ok (slots.put key value) ∧ (slots.put key value).Holds (before ++ [(key, value)]) := by
  obtain ⟨known, new⟩ := not_offence_iff.1 none
  have free : ¬ (slots.get key).isSome := mt (holds.isSome_iff known).1 new
  refine ⟨by rw [write_eq, if_neg (not_not.2 known), if_neg free], fun k hk v => ?_⟩
  rw [List.mem_append, List.mem_singleton, Prod.mk.injEq]
  by_cases same : k = key
  · subst same
    have unheld : (k, v) ∉ before := fun h => new (mem_keys_iff.2 ⟨v, h⟩)
    rw [get_put_self known, Option.some.injEq, or_iff_right unheld, eq_comm, and_iff_right rfl]
  · rw [get_put_of_ne same, holds k hk v, or_iff_left fun h => same h.1]

/-- **An offence is told.** -/
theorem Holds.write_of_offence (holds : slots.Holds before) (offence : Offence before key fault) :
    slots.write key value = .error fault := by
  rw [write_eq]
  cases offence with
  | unknown other => rw [if_pos other]
  | repeated known seen => rw [if_neg (not_not.2 known), if_pos ((holds.isSome_iff known).2 seen)]

/-- **Clean pairs are written**, and what comes behind them finds slots that hold them. -/
theorem Holds.writeAll (holds : slots.Holds before) (clean : Clean (before ++ pairs)) :
    ∃ full : Slots, full.Holds (before ++ pairs) ∧ ∀ rest, slots.writeAll (pairs ++ rest) = full.writeAll rest := by
  induction pairs generalizing before slots with
  | nil => exact ⟨slots, by rwa [List.append_nil], fun rest => rfl⟩
  | cons pair pairs ih =>
    obtain ⟨key, value⟩ := pair
    have split : before ++ (key, value) :: pairs = (before ++ [(key, value)]) ++ pairs := by simp
    rw [split] at clean ⊢
    obtain ⟨written, held⟩ := holds.write (clean_concat_iff.1 clean.front).2 value
    obtain ⟨full, hfull, more⟩ := ih held clean
    refine ⟨full, hfull, fun rest => ?_⟩
    rw [List.cons_append, Slots.writeAll, written]
    exact more rest

theorem holds_empty : ({} : Slots).Holds [] := by
  intro key known value
  simp only [keys, List.mem_cons, List.not_mem_nil, or_false] at known
  rcases known with rfl | rfl | rfl <;> simp [get]

theorem writeAll_of_clean (clean : Clean pairs) :
    ∃ full : Slots, full.Holds pairs ∧ ({} : Slots).writeAll pairs = .ok full := by
  obtain ⟨full, holds, more⟩ := holds_empty.writeAll (show Clean ([] ++ pairs) from clean)
  have all := more []
  rw [List.append_nil] at all
  exact ⟨full, holds, all⟩

/-- **The first offence ends the reading**, whatever comes behind. -/
theorem writeAll_of_offence (clean : Clean before) (offence : Offence before key fault) :
    ∃ held : Slots, held.Holds before ∧ ∀ value after,
      ({} : Slots).writeAll (before ++ (key, value) :: after) = .error (held, fault) := by
  obtain ⟨held, holds, more⟩ := holds_empty.writeAll (show Clean ([] ++ before) from clean)
  refine ⟨held, holds, fun value after => ?_⟩
  rw [more, Slots.writeAll, holds.write_of_offence offence]

end Slots

/-! ## Assertions -/

/-- **Slots with a type make an assertion** that holds what the pairs give. -/
theorem given_of_holds (holds : slots.Holds pairs) {type : String} (typed : slots.type = some type) :
    Given pairs
      { type := type
        handler := match slots.handler with
          | some path => .module path
          | none => .absent
        encoding := slots.encoding } := by
  have types : ∀ t, slots.type = some t ↔ ("type", t) ∈ pairs := holds "type" (by decide)
  have handlers : ∀ path, slots.handler = some path ↔ ("handler", path) ∈ pairs := holds "handler" (by decide)
  constructor
  · intro t
    rw [← types, typed, Option.some.injEq]
  · intro path
    rw [← handlers]
    cases slots.handler <;> simp
  · rw [mem_keys_iff, ← exists_congr handlers]
    cases slots.handler <;> simp
  · exact holds "encoding" (by decide)

/-- Pairs give one assertion at most. -/
theorem Given.unique (ha : Given pairs a) (hb : Given pairs b) : a = b := by
  have type : a.type = b.type := (ha.type b.type).2 ((hb.type b.type).1 rfl)
  have encoding : a.encoding = b.encoding :=
    Option.ext fun label => (ha.encoding label).trans (hb.encoding label).symm
  have handler : a.handler = b.handler := by
    by_cases given : "handler" ∈ pairs.map Prod.fst
    · obtain ⟨path, hpath⟩ := mem_keys_iff.1 given
      rw [(ha.handler path).2 hpath, (hb.handler path).2 hpath]
    · rw [ha.absent.2 given, hb.absent.2 given]
  cases a
  cases b
  simp only at type handler encoding
  rw [type, handler, encoding]

theorem Given.perm (given : Given pairs a) (perm : pairs.Perm other) : Given other a where
  type type := (given.type type).trans perm.mem_iff
  handler path := (given.handler path).trans perm.mem_iff
  absent := given.absent.trans (not_congr (perm.map Prod.fst).mem_iff)
  encoding label := (given.encoding label).trans perm.mem_iff

theorem typeSoFar_of_holds (holds : slots.Holds pairs) : TypeSoFar pairs (slots.type.getD "") := by
  have types : ∀ t, slots.type = some t ↔ ("type", t) ∈ pairs := holds "type" (by decide)
  cases typed : slots.type with
  | some type => exact .inl ((types type).1 typed)
  | none =>
    refine .inr ⟨fun seen => ?_, rfl⟩
    obtain ⟨type, given⟩ := mem_keys_iff.1 seen
    rw [(types type).2 given] at typed
    cases typed

/-- **Clean pairs with a type** spell an assertion that holds what they give. -/
theorem ofPairs_of_clean (specifier : String) (clean : Clean pairs) (typed : "type" ∈ pairs.map Prod.fst) :
    ∃ a, ofPairs specifier pairs = .ok a ∧ Given pairs a := by
  obtain ⟨full, holds, written⟩ := Slots.writeAll_of_clean clean
  obtain ⟨type, given⟩ := mem_keys_iff.1 typed
  have filled : full.type = some type := (holds "type" (by decide) type).2 given
  refine ⟨_, ?_, given_of_holds holds filled⟩
  unfold ofPairs
  rw [written]
  dsimp only
  split
  next empty =>
    rw [filled] at empty
    cases empty
  next found =>
    rw [filled] at found
    cases found
    rfl

theorem ofPairs_of_untyped (specifier : String) (clean : Clean pairs) (untyped : "type" ∉ pairs.map Prod.fst) :
    ofPairs specifier pairs = .error (.assertion specifier specifier "" .missingType) := by
  obtain ⟨full, holds, written⟩ := Slots.writeAll_of_clean clean
  have empty : full.type = none := by
    rw [← Option.not_isSome_iff_eq_none]
    exact mt (holds.isSome_iff (show "type" ∈ keys by decide)).1 untyped
  rw [ofPairs, written]
  simp only [empty]

/-- **The first offence is told**, with the type so far. -/
theorem ofPairs_of_offence (specifier : String) (clean : Clean before) (offence : Offence before key fault) :
    ∃ type, TypeSoFar before type ∧ ∀ value after,
      ofPairs specifier (before ++ (key, value) :: after) = .error (.assertion specifier specifier type fault) := by
  obtain ⟨held, holds, told⟩ := Slots.writeAll_of_offence clean offence
  refine ⟨_, typeSoFar_of_holds holds, fun value after => ?_⟩
  rw [ofPairs, told]

/-- **What is read of pairs**, for an import of a specifier. -/
structure ReadsPairs (specifier : String) (read : List (String × String) → Except ImportError Assertion) : Prop where
  accepts : ∀ pairs, (∃ a, read pairs = .ok a) ↔ Clean pairs ∧ "type" ∈ pairs.map Prod.fst
  given : ∀ pairs a, read pairs = .ok a → Given pairs a
  unordered : ∀ pairs other a, pairs.Perm other → read pairs = .ok a → read other = .ok a
  /-- Pairs that are not clean have a first offence; -/
  first : ∀ pairs, ¬ Clean pairs → ∃ before key value after fault, pairs = before ++ (key, value) :: after ∧
    Clean before ∧ Offence before key fault
  /-- that offence is told with the type so far, and what comes behind its key does not count. -/
  offended : ∀ before key fault, Clean before → Offence before key fault → ∃ type, TypeSoFar before type ∧
    ∀ value after, read (before ++ (key, value) :: after) = .error (.assertion specifier specifier type fault)
  untyped : ∀ pairs, Clean pairs → "type" ∉ pairs.map Prod.fst →
    read pairs = .error (.assertion specifier specifier "" .missingType)

theorem clean_of_ofPairs {specifier : String} (h : ofPairs specifier pairs = .ok a) :
    Clean pairs ∧ "type" ∈ pairs.map Prod.fst := by
  by_cases clean : Clean pairs
  · by_cases typed : "type" ∈ pairs.map Prod.fst
    · exact ⟨clean, typed⟩
    · rw [ofPairs_of_untyped specifier clean typed] at h
      cases h
  · obtain ⟨before, key, value, after, fault, rfl, front, offence⟩ := exists_offence clean
    obtain ⟨type, -, told⟩ := ofPairs_of_offence specifier front offence
    rw [told] at h
    cases h

theorem given_of_ofPairs {specifier : String} (h : ofPairs specifier pairs = .ok a) : Given pairs a := by
  obtain ⟨clean, typed⟩ := clean_of_ofPairs h
  obtain ⟨b, hb, given⟩ := ofPairs_of_clean specifier clean typed
  rw [h] at hb
  cases hb
  exact given

/-- **Pairs spell an assertion** if they are clean and give a type, and their first offence is told otherwise. -/
theorem readsPairs_ofPairs (specifier : String) : ReadsPairs specifier (ofPairs specifier) where
  accepts pairs := by
    constructor
    · rintro ⟨a, h⟩
      exact clean_of_ofPairs h
    · rintro ⟨clean, typed⟩
      obtain ⟨a, h, -⟩ := ofPairs_of_clean specifier clean typed
      exact ⟨a, h⟩
  given pairs a := given_of_ofPairs
  unordered pairs other a perm h := by
    obtain ⟨clean, typed⟩ := clean_of_ofPairs h
    have typed' := (perm.map Prod.fst).mem_iff.1 typed
    obtain ⟨b, hb, given⟩ := ofPairs_of_clean specifier (clean.perm perm) typed'
    rw [hb, given.unique ((given_of_ofPairs h).perm perm)]
  first pairs := exists_offence
  offended before key fault := ofPairs_of_offence specifier
  untyped pairs := ofPairs_of_untyped specifier

/-- The type that a second one follows is told with it, and the unknown key behind both is not. -/
example :
    ofPairs "./a.csv" [("encoding", "utf-8"), ("type", "csv"), ("type", "tsv"), ("lazy", "true")] =
      .error (.assertion "./a.csv" "./a.csv" "csv" (.duplicateKey "type")) := by
  rfl

end TypedImport.Assertion
