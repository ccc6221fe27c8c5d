import Mathlib.Algebra.Ring.Nat
import Mathlib.Data.List.Nodup
import Mathlib.Data.List.Perm.Basic
import TypedImport.Proofs.Loader.LifeCycle

/-!
# The statistics of a loader

Every import comes to one fate (`Import.Stage.fate`), and the counters of a loader are the numbers of
the imports of each fate: no import is lost, and none is counted twice. They are written in the same
turn in which an import ends, by how it has ended and by nothing that it went through before
(`Passage.outcomes_of_ends`).

**Calls.** The handlers called in a run are read off its events (`callLog`). A computation is in this
log once, if its handler was called at all. Since an import asks the cache once, there are no more
computations than imports.

**Words.** What is shown of a counter is a word, which goes on as words do (`Passage.words`). No counter but
that of the bytes is ahead of the imports, so as long as there are fewer imports than words, the words tell the
numbers (`numbers_words_run`).
-/

namespace TypedImport

namespace Table

variable {α : Type} {t : Table α Nat}

/-- The sum of the numbers in a table. -/
def total (t : Table α Nat) : Nat :=
  (t.map Prod.snd).sum

theorem total_cons (k : α) (v : Nat) (t : Table α Nat) : total ((k, v) :: t) = v + t.total := rfl

variable [DecidableEq α]

theorem erase_cons (k : α) (v : Nat) (t : Table α Nat) (key : α) :
    Table.erase ((k, v) :: t) key = if k = key then t.erase key else (k, v) :: t.erase key := by
  simp [Table.erase, List.filter_cons]

theorem Distinct.total_erase (h : t.Distinct) (key : α) :
    (t.erase key).total + (t.get? key).getD 0 = t.total := by
  induction t with
  | nil => rfl
  | cons entry rest ih =>
    obtain ⟨k, v⟩ := entry
    unfold Distinct at h
    simp only [List.map_cons, List.nodup_cons] at h
    have rest_total := ih h.2
    rw [erase_cons, total_cons, get?_cons]
    by_cases hk : k = key
    · subst hk
      have absent : get? rest k = none :=
        get?_eq_none_of_forall fun entry he heq => h.1 (List.mem_map.2 ⟨entry, he, heq⟩)
      rw [absent, Option.getD_none] at rest_total
      rw [if_pos rfl, if_pos rfl, Option.getD_some]
      omega
    · rw [if_neg hk, if_neg hk, total_cons]
      omega

/-- **One more at a key is one more in all.** -/
theorem Distinct.total_put (h : t.Distinct) (key : α) :
    (t.put key ((t.get? key).getD 0 + 1)).total = t.total + 1 := by
  have erased := h.total_erase key
  unfold Table.put
  rw [total_cons]
  omega

end Table

/-- **What has come of an import.** -/
inductive Import.Fate where
  | running
  | dropped
  | failed
  | served (status : CacheStatus)
  deriving DecidableEq

/-- The fate of an import at a stage. -/
def Import.Stage.fate : Import.Stage → Import.Fate
  | .dropped => .dropped
  | .done (.error _) => .failed
  | .done (.ok served) => .served served.status
  | _ => .running

theorem Import.Stage.fate_eq_of_not_done {stage : Import.Stage} (under : ∀ result, stage ≠ .done result) :
    stage.fate = .running ∨ stage.fate = .dropped := by
  cases stage with
  | done result => exact absurd rfl (under result)
  | begun | fetching | computing => exact .inl rfl
  | dropped => exact .inr rfl

/-- The counters of imports that have ended. -/
structure Stats.Outcomes where
  hits : Nat
  joined : Nat
  failures : Nat

/-- The counters of imports that have ended, out of all. -/
def Stats.outcomes (s : Stats) : Stats.Outcomes :=
  ⟨s.hits, s.joined, s.failures⟩

/-- One more import of a fate. -/
def Stats.Outcomes.add (o : Stats.Outcomes) : Import.Fate → Stats.Outcomes
  | .served .hit => { o with hits := o.hits + 1 }
  | .served .joined => { o with joined := o.joined + 1 }
  | .failed => { o with failures := o.failures + 1 }
  | _ => o

theorem Stats.Outcomes.mk_add (hits joined failures : Nat) (fate : Import.Fate) :
    (⟨hits, joined, failures⟩ : Stats.Outcomes).add fate =
      ⟨hits + (if fate = .served .hit then 1 else 0), joined + (if fate = .served .joined then 1 else 0),
        failures + (if fate = .failed then 1 else 0)⟩ := by
  cases fate with
  | running | dropped | failed => rfl
  | served status => cases status <;> rfl

/-- **An import is counted by its fate.** -/
theorem Stats.outcomes_after (s : Stats) (stage : Import.Stage) :
    (s.after stage).outcomes = s.outcomes.add stage.fate := by
  cases stage with
  | done result =>
    cases result with
    | error e => rfl
    | ok served =>
      obtain ⟨made, status⟩ := served
      cases status <;> rfl
  | begun | fetching | computing | dropped => rfl

/-- The counters with more counted. -/
def Stats.add (s more : Stats) : Stats where
  imports := s.imports + more.imports
  hits := s.hits + more.hits
  joined := s.joined + more.joined
  invocations := s.invocations + more.invocations
  failures := s.failures + more.failures
  bytes := s.bytes + more.bytes

/-- Words with others added, each to its own. -/
def Stats.Words.add (w more : Stats.Words) : Stats.Words where
  imports := w.imports + more.imports
  hits := w.hits + more.hits
  joined := w.joined + more.joined
  invocations := w.invocations + more.invocations
  failures := w.failures + more.failures
  bytes := w.bytes + more.bytes

/-- The numbers that words tell. -/
def Stats.Words.numbers (w : Stats.Words) : Stats where
  imports := w.imports.toNat
  hits := w.hits.toNat
  joined := w.joined.toNat
  invocations := w.invocations.toNat
  failures := w.failures.toNat
  bytes := w.bytes.toNat

/-- **Adding numbers is adding words**, whether or not they fit. -/
theorem Stats.words_add (s more : Stats) : (s.add more).words = s.words.add more.words := by
  simp only [words, add, Words.add, UInt64.ofNat_add]

/-- What becomes of an import adds to the counters. -/
theorem Stats.exists_after_eq_add (s : Stats) (stage : Import.Stage) :
    ∃ more : Stats, s.after stage = s.add more := by
  cases stage with
  | done result =>
    cases result with
    | error e => exact ⟨{ failures := 1 }, rfl⟩
    | ok served =>
      obtain ⟨made, status⟩ := served
      cases status with
      | hit => exact ⟨{ hits := 1 }, rfl⟩
      | joined => exact ⟨{ joined := 1 }, rfl⟩
      | computed => exact ⟨{}, rfl⟩
  | begun | fetching | computing | dropped => exact ⟨{}, rfl⟩

theorem Stats.after_frame (s : Stats) (stage : Import.Stage) :
    (s.after stage).imports = s.imports ∧ (s.after stage).invocations = s.invocations := by
  cases stage with
  | done result =>
    cases result with
    | error e => exact ⟨rfl, rfl⟩
    | ok served =>
      obtain ⟨made, status⟩ := served
      cases status <;> exact ⟨rfl, rfl⟩
  | begun | fetching | computing | dropped => exact ⟨rfl, rfl⟩

namespace Loader

variable {l l' : Loader} {e : Event} {i : Nat} {old new : Import} {result : Except ImportError Served}

/-! ## Imports -/

/-- **How many imports have come to a fate.** -/
def tally (l : Loader) (fate : Import.Fate) : Nat :=
  l.imports.countP fun imp => imp.stage.fate = fate

/-- Every import has one fate. -/
theorem length_imports (l : Loader) :
    l.imports.length = l.tally (.served .hit) + l.tally (.served .joined) + l.tally .failed +
      l.tally (.served .computed) + (l.tally .running + l.tally .dropped) := by
  unfold tally
  induction l.imports with
  | nil => rfl
  | cons imp rest ih =>
    simp only [List.countP_cons, List.length_cons, decide_eq_true_eq]
    cases imp.stage.fate with
    | running | dropped | failed =>
      simp
      omega
    | served status =>
      cases status <;> simp <;> omega

/-- The number of those of which something holds changes by the import that goes on. -/
theorem countP_set_of_some {imports : List Import} (before : imports[i]? = some old) (new : Import)
    (p : Import → Bool) :
    (imports.set i new).countP p + (if p old then 1 else 0) =
      imports.countP p + (if p new then 1 else 0) := by
  obtain ⟨inside, hget⟩ := List.getElem?_eq_some_iff.1 before
  have counted : p old → 0 < imports.countP p :=
    fun hp => List.countP_pos_iff.2 ⟨old, hget ▸ List.getElem_mem inside, hp⟩
  rw [List.countP_set inside, hget]
  by_cases hp : p old
  · have := counted hp
    simp only [hp, if_true]
    omega
  · simp [hp]

/-- **How the imports have ended**, counted. -/
def endings (l : Loader) : Stats.Outcomes :=
  ⟨l.tally (.served .hit), l.tally (.served .joined), l.tally .failed⟩

theorem endings_of_same (same : l'.imports = l.imports) : l'.endings = l.endings := by
  simp only [endings, tally, same]

theorem endings_of_append (more : l'.imports = l.imports ++ [new]) :
    l'.endings = l.endings.add new.stage.fate := by
  have counts : ∀ fate, l'.tally fate = l.tally fate + if new.stage.fate = fate then 1 else 0 := by
    intro fate
    simp [tally, more]
  rw [endings, counts, counts, counts]
  exact (Stats.Outcomes.mk_add ..).symm

/-- No counter has counted an import that goes on, as it has not ended before. -/
theorem endings_of_set (before : l.imports[i]? = some old) (under : ∀ result, old.stage ≠ .done result)
    (set : l'.imports = l.imports.set i new) : l'.endings = l.endings.add new.stage.fate := by
  have counts : ∀ fate, fate ≠ .running → fate ≠ .dropped →
      l'.tally fate = l.tally fate + if new.stage.fate = fate then 1 else 0 := by
    intro fate hrunning hdropped
    have moved := countP_set_of_some before new fun imp => imp.stage.fate = fate
    have uncounted : old.stage.fate ≠ fate := by
      rintro rfl
      rcases Import.Stage.fate_eq_of_not_done under with h | h
      · exact hrunning h
      · exact hdropped h
    unfold tally
    rw [set]
    simpa [uncounted] using moved
  rw [endings, counts _ (by simp) (by simp), counts _ (by simp) (by simp), counts _ (by simp) (by simp)]
  exact (Stats.Outcomes.mk_add ..).symm

/-- **The counters are those of the imports.** -/
structure Tallied (l : Loader) : Prop where
  imports : l.stats.imports = l.imports.length
  outcomes : l.stats.outcomes = l.endings

theorem Passage.tallied (h : Passage l e l') (tallied : l.Tallied) : l'.Tallied := by
  obtain ⟨imports, outcomes⟩ := tallied
  cases h with
  | still _ _ same stats =>
    refine ⟨by rw [stats, same, imports], ?_⟩
    rw [stats, endings_of_same same, outcomes]
  | called _ _ same stats =>
    refine ⟨by rw [stats, same, ← imports], ?_⟩
    rw [endings_of_same same, ← outcomes, stats]
    rfl
  | came _ request more stats =>
    refine ⟨by simp [stats, more, imports], ?_⟩
    rw [endings_of_append more, ← outcomes, stats]
    rfl
  | refused _ error more stats =>
    refine ⟨by simp [stats, more, imports], ?_⟩
    rw [endings_of_append more, ← outcomes, stats]
    rfl
  | @went i old new bytes before goes set stats =>
    refine ⟨by simp [stats, set, l.stats.after_frame, imports], ?_⟩
    rw [endings_of_set before (not_done_of_goes goes) set, ← outcomes, ← l.stats.outcomes_after, stats]
    rfl

theorem tallied_run (hl : l.Fresh) (stats : l.stats = {}) (events : List Event) :
    (l.run events).Tallied := by
  induction events using List.reverseRecOn with
  | nil =>
    rw [show l.run [] = l from rfl]
    refine ⟨?_, ?_⟩
    · rw [stats, hl.imports]
      rfl
    · simp [stats, Stats.outcomes, endings, tally, hl.imports]
  | append_singleton events e ih =>
    rw [run_concat]
    exact (passage_run hl events e).tallied ih

/-- **An import has ended** in an event. -/
def Ends (l : Loader) (e : Event) (i : Nat) (result : Except ImportError Served) : Prop :=
  (∃ states, (l.after e).imports[i]? = some ⟨states, .done result⟩) ∧
    ∀ states result', l.imports[i]? ≠ some ⟨states, .done result'⟩

theorem not_ends_of_imports (same : (l.after e).imports = l.imports) : ¬ Ends l e i result := by
  rintro ⟨⟨states, ended⟩, under⟩
  rw [same] at ended
  exact under states result ended

/-- **When an import ends, the counters tell how it has ended**, and they tell nothing else. -/
theorem Passage.outcomes_of_ends (h : Passage l e (l.after e)) (ends : Ends l e i result) :
    (l.after e).stats.outcomes = l.stats.outcomes.add (Import.Stage.done result).fate := by
  obtain ⟨⟨states, ended⟩, under⟩ := id ends
  cases h with
  | still _ _ imports => exact (not_ends_of_imports imports ends).elim
  | called _ _ imports => exact (not_ends_of_imports imports ends).elim
  | came _ request imports =>
    rw [imports] at ended
    rcases Flights.getElem?_append_singleton ended with hold | ⟨-, hnew⟩
    · exact (under states result hold).elim
    · cases hnew
  | refused _ error imports stats =>
    rw [imports] at ended
    rcases Flights.getElem?_append_singleton ended with hold | ⟨-, hnew⟩
    · exact (under states result hold).elim
    · cases hnew
      rw [stats]
      rfl
  | @went k old new bytes before goes imports stats =>
    rw [imports, getElem?_set_of_some before] at ended
    split at ended
    · cases ended
      rw [stats, ← l.stats.outcomes_after]
      rfl
    · exact (under states result ended).elim

/-- **While no import ends, these counters stand still.** -/
theorem Passage.outcomes_of_no_end (h : Passage l e (l.after e))
    (none : ∀ i result, ¬ Ends l e i result) :
    (l.after e).stats.outcomes = l.stats.outcomes := by
  cases h with
  | still _ _ _ stats => rw [stats]
  | called _ _ _ stats =>
    rw [stats]
    rfl
  | came _ _ _ stats =>
    rw [stats]
    rfl
  | refused _ error imports =>
    refine (none l.imports.length (.error error) ⟨⟨[], ?_⟩, ?_⟩).elim
    · rw [imports]
      exact List.getElem?_concat_length
    · intro states result hold
      simp at hold
  | @went i old new bytes before goes imports stats =>
    have frame : (l.after e).stats.outcomes = (l.stats.after new.stage).outcomes := by
      rw [stats]
      rfl
    rw [frame]
    obtain ⟨states, stage⟩ := new
    cases stage with
    | begun | fetching | computing | dropped => rfl
    | done result =>
      refine (none i result ⟨⟨states, ?_⟩, ?_⟩).elim
      · rw [imports, getElem?_set_of_some before, if_pos rfl]
      · intro states' result' hold
        rw [before] at hold
        cases hold
        exact not_done_of_goes goes result' rfl

/-- Every call for an import is counted. -/
theorem Passage.stats_imports (h : Passage l e l') :
    l'.stats.imports = l.stats.imports + if e.isImport then 1 else 0 := by
  cases h with
  | still silent _ _ stats => simp [stats, silent]
  | called silent _ _ stats => simp [stats, silent]
  | came coming _ _ stats => simp [stats, coming]
  | refused coming _ _ stats => simp [stats, coming]
  | @went i old new _ _ goes _ stats =>
    have silent : e.isImport = false := by
      rcases event_of_goes goes with rfl | rfl <;> rfl
    simp [stats, silent, (l.stats.after_frame new.stage).1]

theorem stats_imports_run (hl : l.Fresh) (stats : l.stats = {}) (events : List Event) :
    (l.run events).stats.imports = events.countP Event.isImport := by
  induction events using List.reverseRecOn with
  | nil =>
    rw [show l.run [] = l from rfl, stats]
    rfl
  | append_singleton events e ih =>
    rw [run_concat, (passage_run hl events e).stats_imports, ih]
    simp [List.countP_append]

/-! ## Calls -/

/-- **The computations whose handlers were called** in a run, in this order. -/
def callLog (l : Loader) : List Event → List Nat
  | [] => []
  | e :: rest => (l.called? e).toList ++ (l.after e).callLog rest

theorem callLog_concat (l : Loader) (events : List Event) (e : Event) :
    l.callLog (events ++ [e]) = l.callLog events ++ ((l.run events).called? e).toList := by
  induction events generalizing l with
  | nil => simp [callLog, run]
  | cons first rest ih =>
    rw [List.cons_append, callLog, callLog, ih, List.append_assoc]
    rfl

/-- **The counter of the calls, the calls of each handler and the computations agree with a log.** -/
structure Logged (l : Loader) (log : List Nat) : Prop where
  invocations : l.stats.invocations = log.length
  distinct : l.calls.Distinct
  total : l.calls.total = log.length
  nodup : log.Nodup
  mem_iff : ∀ c, c ∈ log ↔ l.marks[c]? = some true

theorem Logged.of_calls {log : List Nat} (h : l.Logged log)
    (invocations : l'.stats.invocations = l.stats.invocations)
    (calls : l'.callRecord = l.callRecord ∨ l'.callRecord = (l.calls, l.marks ++ [false])) :
    l'.Logged log := by
  have count : l'.calls = l.calls := by
    rcases calls with h | h
    · exact (Prod.ext_iff.1 h).1
    · exact (Prod.ext_iff.1 h).1
  refine ⟨invocations.trans h.invocations, count ▸ h.distinct, count ▸ h.total, h.nodup, fun c => ?_⟩
  rw [h.mem_iff]
  rcases calls with same | started
  · rw [show l'.marks = l.marks from (Prod.ext_iff.1 same).2]
  · rw [show l'.marks = l.marks ++ [false] from (Prod.ext_iff.1 started).2]
    constructor
    · intro hc
      rw [List.getElem?_append_left (List.getElem?_eq_some_iff.1 hc).1, hc]
    · intro hc
      rcases Flights.getElem?_append_singleton hc with hold | ⟨-, hnew⟩
      · exact hold
      · cases hnew

theorem Passage.logged (h : Passage l e l') {log : List Nat} (logged : l.Logged log) :
    l'.Logged (log ++ (l.called? e).toList) := by
  have uncalled : l.called? e = none → l'.stats.invocations = l.stats.invocations →
      (l'.callRecord = l.callRecord ∨ l'.callRecord = (l.calls, l.marks ++ [false])) →
      l'.Logged (log ++ (l.called? e).toList) := by
    intro none invocations calls
    rw [none, Option.toList_none, List.append_nil]
    exact logged.of_calls invocations calls
  have importless : ∀ e : Event, e.isImport = true → l.called? e = none := by
    intro e coming
    cases e with
    | startImport | submit => rfl
    | _ => cases coming
  cases h with
  | still _ none _ stats calls => exact uncalled none (by rw [stats]) (.inl calls)
  | came coming _ _ stats calls => exact uncalled (importless e coming) (by rw [stats]) (.inl calls)
  | refused coming _ _ stats calls => exact uncalled (importless e coming) (by rw [stats]) (.inl calls)
  | @went i old new _ _ goes _ stats calls =>
    have none : l.called? e = none := by
      rcases event_of_goes goes with rfl | rfl <;> rfl
    have frame : l'.stats.invocations = l.stats.invocations := by
      rw [stats]
      exact (l.stats.after_frame new.stage).2
    refine uncalled none frame (calls.imp_right ?_)
    rintro ⟨-, -, started⟩
    exact started
  | @called c id silent call _ stats calls =>
    obtain ⟨hcalls, hmarks⟩ := Prod.ext_iff.1 calls
    obtain ⟨-, comp, hc, fresh⟩ := called?_eq_some_iff.1 call
    have unmarked : l.marks[c]? = some false :=
      marks_eq_some_iff.2 ⟨comp, hc, Computation.isCalled_eq_false_iff.2 fresh⟩
    have inside := (List.getElem?_eq_some_iff.1 unmarked).1
    rw [call, Option.toList_some]
    refine ⟨?_, ?_, ?_, ?_, fun n => ?_⟩
    · rw [stats, List.length_append, ← logged.invocations]
      rfl
    · rw [show l'.calls = _ from hcalls]
      exact logged.distinct.put _ _
    · rw [show l'.calls = _ from hcalls, logged.distinct.total_put, logged.total, List.length_append]
      rfl
    · -- the handler of a computation is called in its first turn only
      have new : c ∉ log := by
        rw [logged.mem_iff, unmarked]
        simp
      refine List.nodup_append.2 ⟨logged.nodup, List.nodup_singleton c, ?_⟩
      rintro n hn m hm rfl
      rw [List.mem_singleton] at hm
      exact new (hm ▸ hn)
    · rw [show l'.marks = _ from hmarks, List.mem_append, List.mem_singleton, logged.mem_iff,
        List.getElem?_set]
      by_cases hn : c = n
      · subst hn
        simp [inside]
      · simp [hn, Ne.symm hn]

theorem logged_callLog (hl : l.Fresh) (stats : l.stats = {}) (calls : l.calls = []) (events : List Event) :
    (l.run events).Logged (l.callLog events) := by
  induction events using List.reverseRecOn with
  | nil =>
    rw [show l.run [] = l from rfl]
    refine ⟨?_, ?_, ?_, List.nodup_nil, ?_⟩
    · rw [stats]
      rfl
    · rw [calls]
      exact Table.Distinct.nil
    · rw [calls]
      rfl
    · simp [callLog, marks, hl.computations]
  | append_singleton events e ih =>
    rw [run_concat, callLog_concat]
    exact (passage_run hl events e).logged ih

/-- A log is no longer than there are computations. -/
theorem Logged.length_le {log : List Nat} (h : l.Logged log) : log.length ≤ l.marks.length := by
  have inside : log ⊆ List.range l.marks.length := by
    intro c hc
    exact List.mem_range.2 (List.getElem?_eq_some_iff.1 ((h.mem_iff c).1 hc)).1
  have shorter := (List.subperm_of_subset h.nodup inside).length_le
  rwa [List.length_range] at shorter

/-- **There are no more computations than imports that have asked the cache.** -/
theorem Passage.length_marks_le (h : Passage l e l')
    (le : l.marks.length ≤ l.imports.countP fun imp => imp.fetchStates?.isNone) :
    l'.marks.length ≤ l'.imports.countP fun imp => imp.fetchStates?.isNone := by
  have marks : ∀ {calls marks}, l'.callRecord = (calls, marks) → l'.marks = marks :=
    fun h => (Prod.ext_iff.1 h).2
  cases h with
  | still _ _ imports _ calls => rwa [imports, marks calls]
  | called _ _ imports _ calls => rwa [imports, marks calls, List.length_set]
  | came _ _ imports _ calls =>
    rw [imports, marks calls, List.countP_append]
    omega
  | refused _ _ imports _ calls =>
    rw [imports, marks calls, List.countP_append]
    omega
  | @went i old new _ before goes imports _ calls =>
    have moved := countP_set_of_some before new fun imp => imp.fetchStates?.isNone
    have stays := fetchStates?_of_goes goes
    rw [imports]
    rcases calls with same | ⟨asks, past, started⟩
    · rw [marks same]
      cases hold : old.fetchStates? with
      | some states =>
        simp only [hold, Option.isNone_some] at moved
        simp at moved
        omega
      | none =>
        simp only [hold, stays hold, Option.isNone_none, if_true] at moved
        omega
    · obtain ⟨states, hold⟩ := Option.isSome_iff_exists.1 asks
      rw [marks started, List.length_append]
      simp [hold, past] at moved
      simp
      omega

theorem length_marks_le_run (hl : l.Fresh) (events : List Event) :
    (l.run events).marks.length ≤ (l.run events).imports.countP fun imp => imp.fetchStates?.isNone := by
  induction events using List.reverseRecOn with
  | nil =>
    rw [show l.run [] = l from rfl]
    simp [marks, hl.computations]
  | append_singleton events e ih =>
    rw [run_concat]
    exact (passage_run hl events e).length_marks_le ih

/-- There are no more calls than imports. -/
theorem invocations_le_run (hl : l.Fresh) (stats : l.stats = {}) (calls : l.calls = []) (events : List Event) :
    (l.run events).stats.invocations ≤ (l.run events).stats.imports := by
  have logged := logged_callLog hl stats calls events
  have computations := length_marks_le_run hl events
  rw [logged.invocations, (tallied_run hl stats events).imports]
  exact logged.length_le.trans (computations.trans List.countP_le_length)

/-! ## Words -/

/-- **Every event adds to the counters**, and to their words what it adds. -/
theorem Passage.words (h : Passage l e l') :
    ∃ more, l'.stats = l.stats.add more ∧ l'.stats.words = l.stats.words.add more.words := by
  have adds : ∃ more, l'.stats = l.stats.add more := by
    cases h with
    | still _ _ _ stats => exact ⟨{}, stats⟩
    | called _ _ _ stats => exact ⟨{ invocations := 1 }, stats⟩
    | came _ _ _ stats => exact ⟨{ imports := 1 }, stats⟩
    | refused _ _ _ stats => exact ⟨{ imports := 1, failures := 1 }, stats⟩
    | @went i old new bytes _ _ _ stats _ grows =>
      obtain ⟨more, counted⟩ := l.stats.exists_after_eq_add new.stage
      obtain ⟨fetched, rfl⟩ := Nat.exists_eq_add_of_le grows
      refine ⟨{ more with bytes := fetched }, ?_⟩
      rw [stats, counted]
      rfl
  obtain ⟨more, added⟩ := adds
  exact ⟨more, added, by rw [added, Stats.words_add]⟩

/-- No counter of imports that have ended is ahead of the imports. -/
theorem Tallied.le_imports (h : l.Tallied) :
    l.stats.hits ≤ l.stats.imports ∧ l.stats.joined ≤ l.stats.imports ∧
      l.stats.failures ≤ l.stats.imports := by
  have fates := l.length_imports
  obtain ⟨hits, joined, failures⟩ := Stats.Outcomes.mk.inj h.outcomes
  rw [h.imports, hits, joined, failures]
  omega

/-- **Words tell the numbers of a run with fewer imports than words**, and of the bytes what fits. -/
theorem numbers_words_run (hl : l.Fresh) (stats : l.stats = {}) (calls : l.calls = []) {events : List Event}
    (few : events.countP Event.isImport < UInt64.size) :
    (l.run events).stats.words.numbers =
      { (l.run events).stats with bytes := (l.run events).stats.bytes % UInt64.size } := by
  have imports : (l.run events).stats.imports < UInt64.size := by
    rwa [stats_imports_run hl stats]
  obtain ⟨hits, joined, failures⟩ := (tallied_run hl stats events).le_imports
  have invocations := invocations_le_run hl stats calls events
  have fits : ∀ {n : Nat}, n ≤ (l.run events).stats.imports → (UInt64.ofNat n).toNat = n :=
    fun le => UInt64.toNat_ofNat_of_lt' (Nat.lt_of_le_of_lt le imports)
  unfold Stats.words Stats.Words.numbers
  rw [fits (Nat.le_refl _), fits hits, fits joined, fits invocations, fits failures, UInt64.toNat_ofNat']

/-! ## The account -/

/-- **The statistics of a run account for every import.** -/
structure Accounted (l : Loader) (events : List Event) : Prop where
  /-- Every call for an import is counted, once. -/
  imports : (l.run events).stats.imports = events.countP Event.isImport
  /-- For each of them there is an import. -/
  present : (l.run events).imports.length = events.countP Event.isImport
  /-- An import is counted by how it has ended, if it has. -/
  outcomes : (l.run events).stats.hits = (l.run events).tally (.served .hit) ∧
    (l.run events).stats.joined = (l.run events).tally (.served .joined) ∧
      (l.run events).stats.failures = (l.run events).tally .failed
  /-- No import is lost, and none is counted twice. -/
  balance : (l.run events).stats.imports =
    (l.run events).stats.hits + (l.run events).stats.joined + (l.run events).stats.failures +
      (l.run events).tally (.served .computed) +
        ((l.run events).tally .running + (l.run events).tally .dropped)
  /-- One that ends in an error adds one to the failures and nothing to the hits and the joined, whatever it
  went through before. -/
  failed : ∀ before e later i error, events = before ++ e :: later →
    Ends (l.run before) e i (.error error) → ((l.run before).after e).stats.outcomes =
      { (l.run before).stats.outcomes with failures := (l.run before).stats.failures + 1 }
  /-- One that ends with a record adds nothing to the failures, and one to the counter of its status, if
  there is one. -/
  served : ∀ before e later i served, events = before ++ e :: later →
    Ends (l.run before) e i (.ok served) → ((l.run before).after e).stats.outcomes =
      { (l.run before).stats.outcomes with
        hits := (l.run before).stats.hits + if served.status = .hit then 1 else 0
        joined := (l.run before).stats.joined + if served.status = .joined then 1 else 0 }
  /-- Nothing else adds to any of the three. -/
  silent : ∀ before e later, events = before ++ e :: later →
    (∀ i result, ¬ Ends (l.run before) e i result) →
      ((l.run before).after e).stats.outcomes = (l.run before).stats.outcomes
  /-- Every call of a handler is counted, and for the handler too. -/
  invocations : (l.run events).stats.invocations = (l.callLog events).length ∧
    (l.run events).calls.total = (l.callLog events).length
  /-- There is one call for each computation that has begun to run. -/
  called : (l.callLog events).Nodup ∧ ∀ c, c ∈ l.callLog events ↔
    ∃ comp, (l.run events).computations[c]? = some comp ∧ comp.isCalled = true
  /-- There are no more calls than imports. -/
  within : (l.run events).stats.invocations ≤ (l.run events).stats.imports

/-- **The statistics of every run of every loader account for every import.** -/
theorem accounted_run (config : Config) (base : Option Url) (registry : Registry) (native : NativeMemo)
    (modules : ModuleTable) (feed : Feed) (events : List Event) :
    Accounted (build config base registry native modules feed) events := by
  have hl := fresh_build config base registry native modules feed
  have tallied := tallied_run hl rfl events
  have logged := logged_callLog hl rfl rfl events
  have requested := stats_imports_run hl rfl events
  have outcomes := tallied.outcomes
  obtain ⟨hits, joined, failures⟩ := Stats.Outcomes.mk.inj outcomes
  refine ⟨requested, ?present, ⟨hits, joined, failures⟩, ?balance, ?failed, ?served, ?silent, ?invocations,
    ?called, ?within⟩
  case present => rw [← tallied.imports, requested]
  case balance => rw [tallied.imports, length_imports, hits, joined, failures]
  case failed =>
    rintro before e later i error rfl ends
    exact (passage_run hl before e).outcomes_of_ends ends
  case served =>
    rintro before e later i ⟨made, status⟩ rfl ends
    rw [(passage_run hl before e).outcomes_of_ends ends]
    cases status <;> rfl
  case silent =>
    rintro before e later rfl none
    exact (passage_run hl before e).outcomes_of_no_end none
  case invocations => exact ⟨logged.invocations, logged.total⟩
  case called => exact ⟨logged.nodup, fun c => (logged.mem_iff c).trans marks_eq_some_iff⟩
  case within => exact invocations_le_run hl rfl rfl events

end Loader

end TypedImport
