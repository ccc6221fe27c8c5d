import TypedImport.Proofs.Loader.Progress
import TypedImport.Proofs.Loader.Requests

/-!
# The life cycle of an import

An import that has come in with a request goes through its states along one of five paths
(`ImportState.paths`), unless it is dropped on the way. How far it is along which of them is told by its
stage (`Import.Stage.courses`), and every turn keeps it so (`onCourse_of_goes`).

**Hits.** An import enters the state of a hit just when the cache tells it of one. Then it has its
record in the same turn, so it does not fail afterwards, and no computation is started for it.
-/

namespace TypedImport

/-- **The paths of an import through its states.** -/
def ImportState.paths : List (List ImportState) :=
  [[.pending, .resolvingHandler, .failed],
   [.pending, .resolvingHandler, .loadingSource, .failed],
   [.pending, .resolvingHandler, .loadingSource, .cacheHit, .completed],
   [.pending, .resolvingHandler, .loadingSource, .invoking, .completed],
   [.pending, .resolvingHandler, .loadingSource, .invoking, .failed]]

/-- **The states that an import at a stage may have gone through.** -/
def Import.Stage.courses : Import.Stage → List (List ImportState)
  | .begun _ => [[.pending]]
  | .fetching .. => [[.pending, .resolvingHandler, .loadingSource]]
  | .computing _ => [[.pending, .resolvingHandler, .loadingSource, .invoking]]
  | .done (.ok served) =>
    if served.status = .hit then [[.pending, .resolvingHandler, .loadingSource, .cacheHit, .completed]]
    else [[.pending, .resolvingHandler, .loadingSource, .invoking, .completed]]
  | .done (.error _) =>
    [[.pending, .resolvingHandler, .failed], [.pending, .resolvingHandler, .loadingSource, .failed],
     [.pending, .resolvingHandler, .loadingSource, .invoking, .failed]]
  | .dropped =>
    [[.pending], [.pending, .resolvingHandler, .loadingSource],
     [.pending, .resolvingHandler, .loadingSource, .invoking]]

/-- **An import is on its course**: it has gone through the states that its stage calls for. -/
def Import.OnCourse (imp : Import) : Prop :=
  imp.states ∈ imp.stage.courses

/-- An import that was refused before it had a request. -/
def Import.Refused (imp : Import) : Prop :=
  imp.states = [] ∧ ∃ error, imp.stage = .done (.error error)

namespace Import.OnCourse

variable {imp : Import} {states : List ImportState} {result : Except ImportError Served}

/-- Every course is the beginning of a path. -/
theorem exists_path (h : imp.OnCourse) : ∃ path ∈ ImportState.paths, imp.states <+: path := by
  obtain ⟨states, stage⟩ := imp
  have begins : ∀ course ∈ stage.courses, ∃ path ∈ ImportState.paths, course <+: path := by
    cases stage with
    | begun | fetching | computing | dropped =>
      simp only [Stage.courses]
      decide
    | done result =>
      cases result with
      | error e =>
        simp only [Stage.courses]
        decide
      | ok served =>
        simp only [Stage.courses]
        split <;> decide
  exact begins states h

/-- An import that has ended has gone through a whole path. -/
theorem mem_paths (h : OnCourse ⟨states, .done result⟩) :
    states ∈ ImportState.paths ∧ states.getLast? = some (.ofResult result) := by
  unfold OnCourse Stage.courses at h
  cases result with
  | error e =>
    simp only [List.mem_cons, List.not_mem_nil, or_false] at h
    rcases h with rfl | rfl | rfl <;> simp [ImportState.paths, ImportState.ofResult]
  | ok served =>
    dsimp only at h
    split at h <;> obtain rfl := List.mem_singleton.1 h <;> simp [ImportState.paths, ImportState.ofResult]

/-- **Only an import that was told of a hit has entered the state of a hit.** -/
theorem cacheHit_mem_iff (h : imp.OnCourse) :
    .cacheHit ∈ imp.states ↔ ∃ made, imp.stage = .done (.ok ⟨made, .hit⟩) := by
  obtain ⟨states, stage⟩ := imp
  unfold OnCourse Stage.courses at h
  cases stage with
  | begun | fetching | computing =>
    obtain rfl := List.mem_singleton.1 h
    simp
  | dropped =>
    simp only [List.mem_cons, List.not_mem_nil, or_false] at h
    rcases h with rfl | rfl | rfl <;> simp
  | done result =>
    cases result with
    | error e =>
      simp only [List.mem_cons, List.not_mem_nil, or_false] at h
      rcases h with rfl | rfl | rfl <;> simp
    | ok served =>
      obtain ⟨made, status⟩ := served
      cases status <;> obtain rfl := List.mem_singleton.1 h <;> simp

/-- An import that has had a handler run for it, or waits for one, has not hit. -/
theorem not_cacheHit_of_invoking (h : imp.OnCourse) (invoking : .invoking ∈ imp.states) :
    .cacheHit ∉ imp.states := by
  obtain ⟨path, hpath, begins⟩ := h.exists_path
  have apart : ∀ path ∈ ImportState.paths, .invoking ∈ path → .cacheHit ∉ path := by decide
  intro hit
  exact apart path hpath (begins.subset invoking) (begins.subset hit)

/-- When its asset is fetched, an import has gone through the same states whichever turn this is in. -/
theorem states_of_fetchStates? (h : imp.OnCourse) (source : imp.fetchStates? = some states) :
    states = [.pending, .resolvingHandler, .loadingSource] := by
  obtain ⟨old, stage⟩ := imp
  unfold OnCourse Stage.courses at h
  unfold Import.fetchStates? at source
  cases stage with
  | begun request =>
    obtain rfl := List.mem_singleton.1 h
    cases source
    rfl
  | fetching request early attempt till =>
    obtain rfl := List.mem_singleton.1 h
    cases source
    rfl
  | computing | done | dropped => cases source

end Import.OnCourse

namespace Loader

variable {l : Loader} {e : Event} {events before : List Event} {i c : Nat} {old new imp : Import}
  {states : List ImportState} {request : ImportRequest} {result : Except ImportError Served}

/-! ## Along the course -/

theorem onCourse_outcome {own : Demand} (h : own.states = [.pending, .resolvingHandler, .loadingSource])
    (reply : Reply) : (own.outcome reply).OnCourse := by
  unfold Demand.outcome Import.OnCourse
  rw [h]
  cases reply with
  | later ticket status => simp [Import.Stage.courses]
  | now result =>
    cases result with
    | error e => simp [Import.Stage.courses]
    | ok served =>
      by_cases hit : served.status = .hit <;> simp [Import.Stage.courses, hit]

/-- **A turn keeps an import on its course.** -/
theorem onCourse_of_goes (noHit : l.flights.TellsNoHit) (goes : Goes l i e old new) (h : old.OnCourse) :
    new.OnCourse := by
  cases goes with
  | unresolved =>
    obtain rfl := List.mem_singleton.1 h
    simp [Import.OnCourse, Import.Stage.courses]
  | waits source => simp [Import.OnCourse, Import.Stage.courses, h.states_of_fetchStates? source]
  | unloaded source => simp [Import.OnCourse, Import.Stage.courses, h.states_of_fetchStates? source]
  | asked source demand => exact onCourse_outcome (h.states_of_fetchStates? source) _
  | @resumed states ticket result reply =>
    obtain rfl := List.mem_singleton.1 h
    cases result with
    | error e => simp [Import.OnCourse, Import.Stage.courses, ImportState.ofResult]
    | ok served =>
      have hit := noHit.status_of_resume reply
      simp [Import.OnCourse, Import.Stage.courses, ImportState.ofResult, hit]
  | dropped under =>
    obtain ⟨states, stage⟩ := old
    unfold Import.OnCourse Import.Stage.courses at h ⊢
    cases stage with
    | begun | fetching | computing =>
      obtain rfl := List.mem_singleton.1 h
      simp
    | done result => exact absurd rfl (under result)
    | dropped => exact h

/-- **Every import of a run is on its course, or was refused.** -/
theorem onCourse_or_refused (hl : l.Fresh) (events : List Event) (i : Nat) (imp : Import)
    (hi : (l.run events).imports[i]? = some imp) : imp.OnCourse ∨ imp.Refused := by
  induction events using List.reverseRecOn generalizing imp with
  | nil =>
    rw [show l.run [] = l from rfl, hl.imports] at hi
    cases hi
  | append_singleton events e ih =>
    rw [run_concat] at hi
    rcases (passage_run hl events e).import_before hi with
      ⟨old, hold, step⟩ | ⟨request, rfl⟩ | ⟨error, rfl⟩
    · rcases step with rfl | goes
      · exact ih _ hold
      · rcases ih old hold with course | ⟨-, error, refused⟩
        · exact .inl (onCourse_of_goes (tellsNoHit_flights hl events) goes course)
        · exact (not_done_of_goes goes _ refused).elim
    · exact .inl (List.mem_singleton_self _)
    · exact .inr ⟨rfl, error, rfl⟩

/-- **An import goes on along the states that it has gone through**, and when it has ended it stays as
it is. -/
theorem import_later (hl : l.Fresh) (hi : (l.run before).imports[i]? = some old) (later : List Event) :
    ∃ new, (l.run (before ++ later)).imports[i]? = some new ∧ old.states <+: new.states ∧
      ∀ result, old.stage = .done result → new = old := by
  induction later using List.reverseRecOn with
  | nil => exact ⟨old, by rw [List.append_nil, hi], List.prefix_rfl, fun _ _ => rfl⟩
  | append_singleton later e ih =>
    obtain ⟨mid, hmid, grown, ended⟩ := ih
    rw [← List.append_assoc, run_concat]
    obtain ⟨new, hnew, step⟩ := (passage_run hl (before ++ later) e).import_after hmid
    rcases step with rfl | goes
    · exact ⟨_, hnew, grown, ended⟩
    · refine ⟨new, hnew, grown.trans (states_of_goes goes), fun result done => ?_⟩
      have stuck := ended result done
      rw [← stuck] at done
      exact (not_done_of_goes goes result done).elim

/-- **An import that came in with a request is on its course.** -/
theorem onCourse_of_ordered (hl : l.Fresh) (ordered : Ordered l events i request)
    (hi : (l.run events).imports[i]? = some imp) : imp.OnCourse := by
  rcases onCourse_or_refused hl events i imp hi with course | ⟨none, -⟩
  · exact course
  · obtain ⟨before, e, later, rfl, orders, rfl⟩ := ordered
    -- it was pending when it came in, and states are not taken back
    have came : (l.run (before ++ [e])).imports[(l.run before).imports.length]? =
        some ⟨[.pending], .begun request⟩ := by
      rw [run_concat, after_of_orders orders]
      exact List.getElem?_concat_length
    obtain ⟨new, hnew, grown, -⟩ := import_later hl came later
    rw [List.append_assoc, List.singleton_append, hi] at hnew
    cases hnew
    rw [none] at grown
    simp at grown

/-! ## Answers -/

/-- **The cache answers import `i`** in an event: at once, or after it has waited. -/
def Answers (l : Loader) (e : Event) (i : Nat) (result : Except ImportError Served) : Prop :=
  e = .pollImport i ∧
    ((∃ own, (l.approach i).2 = some own ∧
        (l.flights.request own.key own.asset.fingerprint).1 = .now result) ∨
      ∃ states ticket, l.imports[i]? = some ⟨states, .computing ticket⟩ ∧
        (l.flights.resume ticket).1 = some result)

/-- The cache has answered import `i` of a run. -/
def Answered (l : Loader) (events : List Event) (i : Nat) (result : Except ImportError Served) : Prop :=
  Happened (fun before e => Answers (l.run before) e i result) events

/-- **An import that is answered has ended with the answer.** -/
theorem done_of_answers (sound : l.flights.Sound) (h : Answers l e i result) :
    ∃ states, (l.after e).imports[i]? = some ⟨states, .done result⟩ := by
  obtain ⟨rfl, ⟨own, asked, reply⟩ | ⟨states, ticket, hi, reply⟩⟩ := h
  · obtain ⟨imp, hi, -⟩ := early_of_approach asked
    have inside := (List.getElem?_eq_some_iff.1 hi).1
    obtain ⟨flights, imports⟩ := approach_of_asked asked
    have served := (serve_eq (l := (l.approach i).1) (i := i) (flights ▸ sound) own).1
    have ended : ∃ states, own.outcome (.now result) = ⟨states, .done result⟩ := by
      cases result <;> exact ⟨_, rfl⟩
    obtain ⟨states, ended⟩ := ended
    refine ⟨states, ?_⟩
    show (l.pollImport i).imports[i]? = _
    rw [pollImport_of_asked asked, served, flights, imports, reply, ended]
    simp [inside]
  · have inside := (List.getElem?_eq_some_iff.1 hi).1
    refine ⟨states ++ [.ofResult result], ?_⟩
    show (l.pollImport i).imports[i]? = _
    unfold pollImport
    rw [hi]
    dsimp only
    cases hr : l.flights.resume ticket with
    | mk answer flights =>
      rw [hr] at reply
      cases reply
      dsimp only
      rw [(finishImport_eq ..).1]
      simp [inside]

/-- **An import that has ended with a record was answered so.** -/
theorem answered_of_done (hl : l.Fresh) (events : List Event) {served : Served}
    (hi : (l.run events).imports[i]? = some ⟨states, .done (.ok served)⟩) :
    Answered l events i (.ok served) := by
  induction events using List.reverseRecOn generalizing states with
  | nil =>
    rw [show l.run [] = l from rfl, hl.imports] at hi
    cases hi
  | append_singleton events e ih =>
    rw [run_concat] at hi
    rcases (passage_run hl events e).import_before hi with
      ⟨old, hold, step⟩ | ⟨request, hnew⟩ | ⟨error, hnew⟩
    · rcases step with rfl | goes
      · exact (ih hold).append [e]
      · have answers : Answers (l.run events) e i (.ok served) := by
          generalize hnew : (⟨states, .done (.ok served)⟩ : Import) = new at goes
          cases goes with
          | unresolved | waits | unloaded | dropped => cases hnew
          | @asked old own source demand =>
            cases hr : ((l.run events).flights.request own.key own.asset.fingerprint).1 with
            | later ticket status =>
              rw [hr] at hnew
              cases hnew
            | now result =>
              rw [hr] at hnew
              cases result with
              | error e => cases hnew
              | ok served' =>
                cases hnew
                exact ⟨rfl, .inl ⟨own, demand, hr⟩⟩
          | resumed reply =>
            cases hnew
            exact ⟨rfl, .inr ⟨_, _, hold, reply⟩⟩
        exact happened_concat.2 (.inr answers)
    · cases hnew
    · cases hnew

/-- **An import has ended with a record just when it was answered so.** -/
theorem done_iff_answered (hl : l.Fresh) (events : List Event) (i : Nat) (served : Served) :
    (∃ states, (l.run events).imports[i]? = some ⟨states, .done (.ok served)⟩) ↔
      Answered l events i (.ok served) := by
  constructor
  · rintro ⟨states, hi⟩
    exact answered_of_done hl events hi
  · rintro ⟨before, e, later, rfl, answers⟩
    obtain ⟨states, ended⟩ := done_of_answers (sound_flights hl before) answers
    rw [← run_concat] at ended
    obtain ⟨new, hnew, -, stuck⟩ := import_later hl ended later
    rw [List.append_assoc, List.singleton_append] at hnew
    exact ⟨states, by rw [hnew, stuck _ rfl]⟩

/-! ## Who has computations started -/

/-- **Import `i` of a run has had computation `c` started**: the computation is there after a turn of
the import, and was not before. -/
def Starts (l : Loader) (events : List Event) (i c : Nat) : Prop :=
  Happened (fun before e => e = .pollImport i ∧ (l.run before).computations[c]? = none ∧
    ∃ comp, ((l.run before).after e).computations[c]? = some comp) events

/-- **The handler of computation `c` was called** in a run. -/
def Called (l : Loader) (events : List Event) (c : Nat) : Prop :=
  Happened (fun before e => (l.run before).called? e = some c) events

/-- Every computation was started for an import. -/
theorem exists_starts (hl : l.Fresh) (events : List Event) {comp : Computation}
    (hc : (l.run events).computations[c]? = some comp) : ∃ i, Starts l events i c := by
  induction events using List.reverseRecOn generalizing comp with
  | nil =>
    rw [show l.run [] = l from rfl, hl.computations] at hc
    cases hc
  | append_singleton events e ih =>
    rw [run_concat] at hc
    cases hold : (l.run events).computations[c]? with
    | some old =>
      obtain ⟨i, starts⟩ := ih hold
      exact ⟨i, starts.append [e]⟩
    | none =>
      rcases (turn_after (l.run events) e).computation_new hc with ⟨old, hsome, -⟩ | ⟨i, d, he, -, -⟩
      · rw [hold] at hsome
        cases hsome
      · exact ⟨i, happened_concat.2 (.inr ⟨he, hold, comp, hc⟩)⟩

/-- **An import for which a computation is started goes to wait for it**, as the cache has told it to. -/
theorem attached_of_started (none : l.computations[c]? = none) {comp : Computation}
    (started : (l.after (.pollImport i)).computations[c]? = some comp) :
    ∃ (own : Demand) (states : List ImportState) (ticket : Nat),
      (l.after (.pollImport i)).imports[i]? = some ⟨states, .computing ticket⟩ ∧
      (l.flights.request own.key own.asset.fingerprint).1 = .later ticket .computed ∧
      (l.after (.pollImport i)).flights = (l.flights.request own.key own.asset.fingerprint).2 ∧
      (l.after (.pollImport i)).computations = l.computations ++ [own.computation] := by
  have same : (l.after (.pollImport i)).computations = l.computations → False := by
    intro heq
    rw [heq, none] at started
    cases started
  have turn := turn_after l (.pollImport i)
  generalize hafter : l.after (.pollImport i) = l' at turn started same ⊢
  cases turn with
  | idle _ _ computations => exact (same computations).elim
  | came _ _ computations => exact (same computations).elim
  | moved _ _ _ _ _ computations => exact (same computations).elim
  | answered _ _ _ _ _ computations => exact (same computations).elim
  | @attached _ _ _ own states ticket status before _ _ reply flights computations imports =>
    by_cases hs : status = .computed
    · rw [if_pos hs] at computations
      refine ⟨own, states, ticket, ?_, hs ▸ reply, flights, computations⟩
      rw [imports, getElem?_set_of_some before, if_pos rfl]
    · rw [if_neg hs] at computations
      exact (same computations).elim
  | resumed _ _ _ computations => exact (same computations).elim
  | worked _ before _ _ computations =>
    rw [computations, Flights.getElem?_modify_of_some before] at started
    split at started
    next hc =>
      rw [hc, before] at none
      cases none
    next =>
      rw [none] at started
      cases started

/-! ## The life cycle -/

/-- An import that has entered the state of a hit is on its course. -/
theorem onCourse_of_cacheHit (hl : l.Fresh) (events : List Event)
    (hi : (l.run events).imports[i]? = some imp) (hit : .cacheHit ∈ imp.states) : imp.OnCourse := by
  rcases onCourse_or_refused hl events i imp hi with course | ⟨none, -⟩
  · exact course
  · rw [none] at hit
    cases hit

/-- **An import has entered the state of a hit just when the cache has told it of one.** -/
theorem cacheHit_iff_answered (hl : l.Fresh) (events : List Event)
    (hi : (l.run events).imports[i]? = some imp) :
    .cacheHit ∈ imp.states ↔ ∃ made, Answered l events i (.ok ⟨made, .hit⟩) := by
  constructor
  · intro hit
    obtain ⟨made, done⟩ := (onCourse_of_cacheHit hl events hi hit).cacheHit_mem_iff.1 hit
    obtain ⟨states, stage⟩ := imp
    cases done
    exact ⟨made, (done_iff_answered hl events i _).1 ⟨states, hi⟩⟩
  · rintro ⟨made, answered⟩
    obtain ⟨states, done⟩ := (done_iff_answered hl events i _).2 answered
    rw [hi] at done
    cases done
    rcases onCourse_or_refused hl events i _ hi with course | ⟨-, error, refused⟩
    · exact course.cacheHit_mem_iff.2 ⟨made, rfl⟩
    · cases refused

/-- **An import for which a computation is started never enters the state of a hit.** -/
theorem not_cacheHit_of_starts (hl : l.Fresh) (starts : Starts l events i c)
    (hi : (l.run events).imports[i]? = some imp) : .cacheHit ∉ imp.states := by
  obtain ⟨before, e, later, rfl, rfl, none, comp, started⟩ := starts
  obtain ⟨-, states, ticket, waits, -⟩ := attached_of_started none started
  rw [← run_concat] at waits
  have course : Import.OnCourse ⟨states, .computing ticket⟩ := by
    rcases onCourse_or_refused hl _ i _ waits with course | ⟨-, error, refused⟩
    · exact course
    · cases refused
  obtain rfl := List.mem_singleton.1 course
  obtain ⟨new, hnew, grown, -⟩ := import_later hl waits later
  rw [List.append_assoc, List.singleton_append, hi] at hnew
  cases hnew
  intro hit
  have invoking : .invoking ∈ imp.states := grown.subset (by simp)
  exact (onCourse_of_cacheHit hl _ hi hit).not_cacheHit_of_invoking invoking hit

theorem exists_starts_of_called (hl : l.Fresh) (called : Called l events c) :
    ∃ i, Starts l events i c := by
  obtain ⟨before, e, later, rfl, call⟩ := called
  obtain ⟨-, comp, hc, -⟩ := called?_eq_some_iff.1 call
  obtain ⟨i, starts⟩ := exists_starts hl before hc
  exact ⟨i, starts.append _⟩

/-- **The life cycle of the imports** of a run. -/
structure LifeCycle (l : Loader) (events : List Event) : Prop where
  /-- An import that has ended has gone through one of the paths, to the state that tells how it has
  ended. -/
  path : ∀ (i : Nat) request states result, Ordered l events i request →
    (l.run events).imports[i]? = some ⟨states, .done result⟩ →
      states ∈ ImportState.paths ∧ states.getLast? = some (.ofResult result)
  /-- One that is under way, or was dropped, has gone through the beginning of one. -/
  onPath : ∀ (i : Nat) request (imp : Import), Ordered l events i request →
    (l.run events).imports[i]? = some imp → ∃ path ∈ ImportState.paths, imp.states <+: path
  /-- It goes on from the states that it has gone through. -/
  onward : ∀ before later (i : Nat) (old new : Import), events = before ++ later →
    (l.run before).imports[i]? = some old → (l.run events).imports[i]? = some new →
      old.states <+: new.states
  /-- It enters the state of a hit just when the cache tells it of a hit, at once or after a wait. -/
  cacheHit_iff : ∀ (i : Nat) (imp : Import), (l.run events).imports[i]? = some imp →
    (.cacheHit ∈ imp.states ↔ ∃ made, Answered l events i (.ok ⟨made, .hit⟩))
  /-- Then it has not failed and does not fail: it has ended with the record. -/
  served : ∀ (i : Nat) (imp : Import), (l.run events).imports[i]? = some imp →
    .cacheHit ∈ imp.states → ∃ made, imp.stage = .done (.ok ⟨made, .hit⟩)
  /-- No computation was started for it. -/
  idle : ∀ (i : Nat) (imp : Import), (l.run events).imports[i]? = some imp →
    .cacheHit ∈ imp.states → ∀ c, ¬ Starts l events i c
  /-- A handler is called only for a computation that was started for an import. -/
  caused : ∀ c, Called l events c → ∃ i, Starts l events i c

/-- **The imports of every run of every loader go through their life cycle.** -/
theorem lifeCycle_run (config : Config) (base : Option Url) (registry : Registry) (native : NativeMemo)
    (modules : ModuleTable) (feed : Feed) (events : List Event) :
    LifeCycle (build config base registry native modules feed) events := by
  have hl := fresh_build config base registry native modules feed
  refine ⟨?path, ?onPath, ?onward, ?cacheHit_iff, ?served, ?idle, ?caused⟩
  case path =>
    intro i request states result ordered done
    exact (onCourse_of_ordered hl ordered done).mem_paths
  case onPath =>
    intro i request imp ordered hi
    exact (onCourse_of_ordered hl ordered hi).exists_path
  case onward =>
    rintro before later i old new rfl hold hnew
    obtain ⟨new', hnew', grown, -⟩ := import_later hl hold later
    rw [hnew] at hnew'
    cases hnew'
    exact grown
  case cacheHit_iff =>
    intro i imp hi
    exact cacheHit_iff_answered hl events hi
  case served =>
    intro i imp hi hit
    exact (onCourse_of_cacheHit hl events hi hit).cacheHit_mem_iff.1 hit
  case idle =>
    intro i imp hi hit c starts
    exact not_cacheHit_of_starts hl starts hi hit
  case caused =>
    intro c called
    exact exists_starts_of_called hl called

end Loader

end TypedImport
