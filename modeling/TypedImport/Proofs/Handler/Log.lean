import Mathlib.Data.List.Nodup
import TypedImport.Proofs.Handler.Definitions

/-!
# A registry in use

A registry in use takes definitions, gives snapshots of its entries, and has walks going through them, in any
order. `Logged` says what a run of such events shows: the registry is that of the log of its valid
definitions, and what was handed out earlier stays as it was.

**Snapshots and walks.** Both are numbered in the order they come. A definition touches neither; a walk is
moved on by its own turns only (`walks_after`), so what it comes to depends on their number and nothing else.
-/

namespace TypedImport

namespace Registry

/-- **What happens to a registry in use.** -/
inductive Event where
  | define (types : List String) (handler : Handler)
  /-- A snapshot is taken. -/
  | snapshot
  /-- A walk through a snapshot begins. -/
  | walk (snapshot : Nat)
  /-- A walk has a turn. -/
  | next (walk : Nat)

/-- A registry in use, with the snapshots that were taken and the walks that have begun. -/
structure InUse where
  registry : Registry := .empty
  snapshots : List (List Entry) := []
  walks : List Walk := []

namespace InUse

def after (s : InUse) : Event → InUse
  | .define types handler =>
    match s.registry.define types handler with
    | .ok (_, registry) => { s with registry := registry }
    | .error _ => s
  | .snapshot => { s with snapshots := s.snapshots ++ [s.registry.entries] }
  | .walk k =>
    match s.snapshots[k]? with
    | some entries => { s with walks := s.walks ++ [{ snapshot := entries }] }
    | none => s
  | .next w =>
    match s.walks[w]? with
    | some walk => { s with walks := s.walks.set w walk.next.2 }
    | none => s

def run (events : List Event) : InUse :=
  events.foldl after {}

/-- What a walk comes to if it has a turn now. -/
def answer (s : InUse) (w : Nat) : Option Entry :=
  s.walks[w]?.bind fun walk => walk.next.1

variable {s : InUse} {events : List Event} {e : Event} {types : List String} {handler : Handler}
  {entries : List Entry} {walk : Walk} {k w : Nat}

theorem run_concat (events : List Event) (e : Event) : run (events ++ [e]) = (run events).after e := by
  simp [run]

/-! ## The log of a run -/

/-- A definition as it is written down, after `n` others. -/
def written (n : Nat) (types : List String) (handler : Handler) : Entry :=
  ⟨listed types, .registry n handler (listed types)⟩

/-- The definition that an event makes. -/
def definition? : Event → Option (List String × Handler)
  | .define types handler => if Valid types handler then some (types, handler) else none
  | _ => none

/-- **The log of a run**: its valid definitions in order. -/
def log (events : List Event) : List Entry :=
  (events.filterMap definition?).mapIdx fun n made => written n made.1 made.2

theorem log_concat_of_valid (h : Valid types handler) (events : List Event) :
    log (events ++ [.define types handler]) =
      log events ++ [written (log events).length types handler] := by
  simp [log, definition?, h, List.mapIdx_concat]

theorem log_concat_of_none (h : definition? e = none) (events : List Event) :
    log (events ++ [e]) = log events := by
  simp [log, h]

theorem nodup_of_mem_log {entry : Entry} (h : entry ∈ log events) : entry.types.Nodup := by
  obtain ⟨n, hn, rfl⟩ := List.mem_mapIdx.1 h
  exact nodup_listed _

theorem after_define_of_valid (h : Valid types handler) :
    s.after (.define types handler) = { s with registry := s.registry.add (listed types) handler } := by
  unfold after
  dsimp only
  rw [define_of_valid h]

theorem after_define_of_not_valid (h : ¬ Valid types handler) : s.after (.define types handler) = s := by
  obtain ⟨fault, hfault⟩ := define_of_not_valid h s.registry
  unfold after
  dsimp only
  rw [hfault]

theorem after_registry_of_none (h : definition? e = none) : (s.after e).registry = s.registry := by
  cases e with
  | define types handler =>
    have hnot : ¬ Valid types handler := by
      intro hvalid
      simp [definition?, hvalid] at h
    rw [after_define_of_not_valid hnot]
  | snapshot => rfl
  | walk k =>
    unfold after
    dsimp only
    split <;> rfl
  | next w =>
    unfold after
    dsimp only
    split <;> rfl

/-- **The registry of a run follows the log of the run.** -/
theorem follows_run (events : List Event) : (run events).registry.Follows (log events) := by
  induction events using List.reverseRecOn with
  | nil => exact follows_empty
  | append_singleton events e ih =>
    rw [run_concat]
    cases hmade : definition? e with
    | none =>
      rw [after_registry_of_none hmade, log_concat_of_none hmade]
      exact ih
    | some made =>
      cases e with
      | define types handler =>
        have hvalid : Valid types handler := by
          by_contra hnot
          simp [definition?, hnot] at hmade
        rw [after_define_of_valid hvalid, log_concat_of_valid hvalid]
        exact ih.add (listed_ne_nil hvalid) handler
      | snapshot => cases hmade
      | walk k => cases hmade
      | next w => cases hmade

/-! ## Snapshots and walks -/

/-- A snapshot that was taken stays. -/
theorem snapshots_after (h : s.snapshots[k]? = some entries) (e : Event) :
    (s.after e).snapshots[k]? = some entries := by
  cases e with
  | define types handler =>
    unfold after
    dsimp only
    split <;> exact h
  | snapshot =>
    have hk := (List.getElem?_eq_some_iff.1 h).1
    show (s.snapshots ++ _)[k]? = _
    rw [List.getElem?_append_left hk, h]
  | walk _ =>
    unfold after
    dsimp only
    split <;> exact h
  | next _ =>
    unfold after
    dsimp only
    split <;> exact h

theorem snapshots_run (before later : List Event) :
    (run (before ++ .snapshot :: later)).snapshots[(run before).snapshots.length]? =
      some (run before).registry.entries := by
  induction later using List.reverseRecOn with
  | nil =>
    rw [run_concat]
    exact List.getElem?_concat_length
  | append_singleton later e ih =>
    rw [← List.cons_append, ← List.append_assoc, run_concat]
    exact snapshots_after ih e

/-- Whether an event is a turn of a walk. -/
def isTurn (w : Nat) : Event → Bool
  | .next w' => w' == w
  | _ => false

/-- **A walk is moved on by its own turns only.** -/
theorem walks_after (h : s.walks[w]? = some walk) (e : Event) :
    (s.after e).walks[w]? = some (if isTurn w e then walk.next.2 else walk) := by
  have hw := (List.getElem?_eq_some_iff.1 h).1
  cases e with
  | define types handler =>
    unfold after
    dsimp only
    split <;> exact h
  | snapshot => exact h
  | walk k =>
    unfold after
    dsimp only
    split
    next =>
      show (s.walks ++ _)[w]? = _
      rw [List.getElem?_append_left hw, h]
      rfl
    next => exact h
  | next w' =>
    by_cases heq : w' = w
    · subst heq
      have hset : (s.walks.set w' walk.next.2)[w']? = some walk.next.2 := List.getElem?_set_self hw
      simpa [after, isTurn, h] using hset
    · unfold after
      dsimp only
      split
      next => simp [isTurn, heq, h]
      next => simp [isTurn, heq, h]

/-- A turn moves a walk on unless it is at the end. -/
theorem next_snd (entries : List Entry) (n : Nat) :
    (Walk.next ⟨entries, min n entries.length⟩).2 = ⟨entries, min (n + 1) entries.length⟩ := by
  unfold Walk.next
  dsimp only
  split
  next hnone =>
    have hle := List.getElem?_eq_none_iff.1 hnone
    have hsame : min n entries.length = min (n + 1) entries.length := by omega
    rw [hsame]
  next hsome =>
    have hlt := (List.getElem?_eq_some_iff.1 hsome).1
    have hsucc : min n entries.length + 1 = min (n + 1) entries.length := by omega
    rw [hsucc]

theorem next_fst (entries : List Entry) (n : Nat) :
    (Walk.next ⟨entries, min n entries.length⟩).1 = entries[n]? := by
  unfold Walk.next
  dsimp only
  by_cases hn : n < entries.length
  · rw [Nat.min_eq_left (Nat.le_of_lt hn), List.getElem?_eq_getElem hn]
  · have hle := Nat.le_of_not_lt hn
    rw [Nat.min_eq_right hle, List.getElem?_eq_none (Nat.le_refl _), List.getElem?_eq_none hle]

/-- **A walk stands where its turns have brought it**, in the snapshot that it began with. -/
theorem walks_run (h : (run events).snapshots[k]? = some entries) (later : List Event) :
    (run (events ++ .walk k :: later)).walks[(run events).walks.length]? =
      some ⟨entries, min (later.countP (isTurn (run events).walks.length)) entries.length⟩ := by
  induction later using List.reverseRecOn with
  | nil =>
    rw [run_concat]
    simp [after, h]
  | append_singleton later e ih =>
    rw [← List.cons_append, ← List.append_assoc, run_concat, walks_after ih e, List.countP_append]
    by_cases hturn : isTurn (run events).walks.length e = true
    · simp [hturn, next_snd]
    · simp [hturn]

/-! ## What a run shows -/

/-- **What a registry shows after a run of events.** -/
structure Logged (events : List Event) : Prop where
  /-- A definition is made if it is valid, under the next number, and is told its descriptor. -/
  accepts : ∀ types handler, Valid types handler →
    (run events).registry.define types handler =
      .ok ((written (log events).length types handler).descriptor,
        (run (events ++ [.define types handler])).registry)
  /-- If it is not valid, it is refused and changes nothing. -/
  refuses : ∀ types handler, ¬ Valid types handler →
    (∃ fault, (run events).registry.define types handler = .error fault) ∧
      run (events ++ [.define types handler]) = run events
  /-- The default of a type is the last definition that lists it. -/
  default : ∀ t, (run events).registry.forType? t = (latest (log events) t).map Entry.descriptor
  /-- The entries are the definitions in order, with the types that they are the last to list. -/
  entries : (run events).registry.entries = surviving (log events)
  nonempty : ∀ entry ∈ (run events).registry.entries, entry.types ≠ []
  disjoint : (run events).registry.entries.Pairwise fun a b => a.types.Disjoint b.types
  /-- An entry lists a type exactly if it has the type's default. -/
  covers : ∀ t d, (run events).registry.forType? t = some d ↔
    ∃ entry ∈ (run events).registry.entries, t ∈ entry.types ∧ entry.descriptor = d
  size : (run events).registry.size =
    ((run events).registry.entries.map fun entry => entry.types.length).sum
  /-- A snapshot has the entries of the moment at which it was taken. -/
  snapshots : ∀ before later, events = before ++ .snapshot :: later →
    (run events).snapshots[(run before).snapshots.length]? = some (run before).registry.entries
  /-- So has a walk through it, whenever it began: after `n` turns it comes to entry `n` of them. -/
  walks : ∀ before middle later, events =
      (before ++ .snapshot :: middle) ++ .walk (run before).snapshots.length :: later →
    (run events).answer (run (before ++ .snapshot :: middle)).walks.length =
      (run before).registry.entries[
        later.countP (isTurn (run (before ++ .snapshot :: middle)).walks.length)]?

/-- **A registry shows the log of its definitions.** -/
theorem logged_run (events : List Event) : Logged events where
  accepts types handler h := by
    rw [define_of_valid h, (follows_run events).defined, run_concat, after_define_of_valid h]
    rfl
  refuses types handler h := by
    refine ⟨define_of_not_valid h _, ?_⟩
    rw [run_concat, after_define_of_not_valid h]
  default := (follows_run events).default
  entries := (follows_run events).entries
  nonempty entry h := by
    rw [(follows_run events).entries] at h
    exact types_ne_nil_of_mem_surviving h
  disjoint := by
    rw [(follows_run events).entries]
    exact (List.nodup_flatMap.1 (nodup_surviving fun _ => nodup_of_mem_log)).2
  covers _ _ := (follows_run events).forType?_eq_some_iff
  size := (follows_run events).size_eq fun _ => nodup_of_mem_log
  snapshots before later h := by
    subst h
    exact snapshots_run before later
  walks before middle later h := by
    subst h
    unfold answer
    rw [walks_run (snapshots_run before middle) later]
    exact next_fst _ _

/-- The first definition loses one of its types to the last. -/
example (call : Nat → Bytes → Context → Call) :
    let a : Handler := ⟨⟨1⟩, "a", [], call⟩
    let b : Handler := ⟨⟨2⟩, "b", [], call⟩
    (run [.define ["x", " y"] a, .define ["z"] b, .define ["x "] b]).registry.entries.map Entry.types =
      [["y"], ["z"], ["x"]] := rfl

end InUse

end Registry

end TypedImport
