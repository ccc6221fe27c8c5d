import TypedImport.Proofs.Loader.Progress
import TypedImport.Proofs.Loader.Requests

/-!
# The steps of an import

What an import does are its steps: the event that lets it in, its turns, and its end if it is dropped
(`StepOf`). A step leaves a part of the loader alone if it does not change the part, and does the same
whatever the part is (`Untouched`, `Unfetched`). The second half counts where what is read does not show: a
disk is the same after a fetch, and so is the table of modules after an attempt that fails.

**Which steps touch anything.** Of what imports share an import touches nothing when it comes in, when it is
dropped before it asks the cache, and after it is over (`untouched_or`). What is left are its turns up to
the question, and of those only one that ends in the question reaches the cache (`uncalled_of_silent`).
-/

namespace TypedImport

/-- An import that has ended or was dropped. -/
def Import.Stage.Over : Import.Stage → Prop
  | .done _ | .dropped => True
  | _ => False

namespace Loader

/-- **What imports share**: the source of assets, the registry and the modules, the cache, its computations
and the calls of handlers. -/
structure Shared where
  feed : Feed
  resolver : Resolver
  flights : Flights
  computations : List Computation
  calls : Table HandlerId Nat

def shared (l : Loader) : Shared :=
  ⟨l.feed, l.resolver, l.flights, l.computations, l.calls⟩

/-- A loader with something else that its imports share. -/
def withShared (l : Loader) (s : Shared) : Loader :=
  { l with
    feed := s.feed
    resolver := s.resolver
    flights := s.flights
    computations := s.computations
    calls := s.calls }

/-- **An event is a step of import `i`.** -/
def StepOf (l : Loader) (i : Nat) : Event → Prop
  | .pollImport j | .dropImport j => j = i
  | .startImport .. | .submit _ => l.imports.length = i
  | _ => False

/-- **An event leaves what imports share alone**, and does not depend on it. -/
structure Untouched (l : Loader) (e : Event) : Prop where
  same : (l.after e).shared = l.shared
  unread : ∀ s, (l.withShared s).after e = (l.after e).withShared s

/-- **An event fetches nothing**: it leaves the source of assets alone, and does not depend on it. -/
structure Unfetched (l : Loader) (e : Event) : Prop where
  same : (l.after e).feed = l.feed
  unread : ∀ feed, { l with feed := feed }.after e = { l.after e with feed := feed }

/-- **An event changes nothing of the cache, and no handler is called in it.** -/
structure Uncalled (l : Loader) (e : Event) : Prop where
  flights : (l.after e).flights = l.flights
  computations : (l.after e).computations = l.computations
  calls : (l.after e).calls = l.calls

variable {l : Loader} {e : Event} {events before later : List Event} {i : Nat} {imp : Import}

/-! ## Steps that touch nothing -/

/-- An event that changes nothing, whatever imports share, leaves that alone. -/
theorem untouched_of_eq (same : ∀ s, (l.withShared s).after e = l.withShared s) : l.Untouched e := by
  have here : l.after e = l := same l.shared
  refine ⟨by rw [here], fun s => ?_⟩
  rw [here]
  exact same s

theorem Untouched.unfetched (h : l.Untouched e) : l.Unfetched e := by
  have same := h.same
  simp only [shared, Shared.mk.injEq] at same
  obtain ⟨feed, resolver, flights, computations, calls⟩ := same
  refine ⟨feed, fun feed => ?_⟩
  have unread := h.unread { l.shared with feed := feed }
  simp only [withShared, shared] at unread
  rw [unread, ← resolver, ← flights, ← computations, ← calls]

theorem Untouched.uncalled (h : l.Untouched e) : l.Uncalled e := by
  have same := h.same
  simp only [shared, Shared.mk.injEq] at same
  obtain ⟨-, -, flights, computations, calls⟩ := same
  exact ⟨flights, computations, calls⟩

/-- **An import that comes in leaves what imports share alone**, whether it is refused or not. -/
theorem untouched_startImport (l : Loader) (specifier : String) (referrer : Option Url) (a : Assertion)
    (bindings : Bindings) : l.Untouched (.startImport specifier referrer a bindings) := by
  constructor
  · show (l.startImport specifier referrer a bindings).shared = _
    rcases startImport_cases l specifier referrer a bindings with ⟨error, heq, -⟩ | ⟨request, -, heq⟩
    · rw [heq]
      rfl
    · rw [heq]
      rfl
  · intro s
    show (l.withShared s).startImport specifier referrer a bindings =
      (l.startImport specifier referrer a bindings).withShared s
    unfold startImport
    dsimp only [withShared]
    split
    · rfl
    · split
      · rfl
      · split <;> rfl

theorem approach_of_over (past : ∀ imp, l.imports[i]? = some imp → imp.stage.Over) :
    l.approach i = (l, none) := by
  unfold approach
  split
  next hi => exact (past _ hi).elim
  next hi => exact (past _ hi).elim
  next => rfl

/-- When an import is over nothing more happens to it. -/
theorem after_of_over (past : ∀ imp, l.imports[i]? = some imp → imp.stage.Over)
    (step : e = .pollImport i ∨ e = .dropImport i) : l.after e = l := by
  rcases step with rfl | rfl
  · show l.pollImport i = l
    unfold pollImport
    split
    next hi => exact (past _ hi).elim
    next => rw [approach_of_over past]
  · show l.dropImport i = l
    unfold dropImport
    split
    next => rfl
    next hi => exact (past _ hi).elim
    next states stage hdone hcomputing hi =>
      cases stage with
      | begun => exact (past _ hi).elim
      | fetching => exact (past _ hi).elim
      | computing ticket => exact (hcomputing ticket rfl).elim
      | done result => exact (hdone result rfl).elim
      | dropped =>
        obtain ⟨inside, hget⟩ := List.getElem?_eq_some_iff.1 hi
        unfold setImport
        rw [← hget, List.set_getElem_self]
    next => rfl

/-- An import that is dropped before it asks the cache is all that changes. -/
theorem dropImport_of_early (hi : l.imports[i]? = some imp) (early : imp.stage.Early) :
    l.dropImport i = l.setImport i imp.states .dropped := by
  obtain ⟨states, stage⟩ := imp
  unfold dropImport
  rw [hi]
  cases stage with
  | begun | fetching => rfl
  | computing | done | dropped => exact early.elim

theorem untouched_dropImport (hi : l.imports[i]? = some imp) (early : imp.stage.Early) :
    l.Untouched (.dropImport i) := by
  have here := dropImport_of_early hi early
  refine ⟨?_, fun s => ?_⟩
  · show (l.dropImport i).shared = l.shared
    rw [here]
    rfl
  · have there := dropImport_of_early (l := l.withShared s) hi early
    show (l.withShared s).dropImport i = (l.dropImport i).withShared s
    rw [here, there]
    rfl

/-- **A step leaves what imports share alone**, unless it is a turn on the way to the question to the cache,
or the import waits for a computation. -/
theorem untouched_or (step : l.StepOf i e) :
    l.Untouched e ∨ (∃ imp, l.imports[i]? = some imp ∧ imp.stage.Early ∧ e = .pollImport i) ∨
      ∃ states ticket, l.imports[i]? = some ⟨states, .computing ticket⟩ := by
  have either : (e = .pollImport i ∨ e = .dropImport i) ∨ l.Untouched e := by
    cases e with
    | pollImport j => exact .inl (.inl (congrArg _ step))
    | dropImport j => exact .inl (.inr (congrArg _ step))
    | startImport specifier referrer a bindings =>
      exact .inr (untouched_startImport l specifier referrer a bindings)
    | submit request => exact .inr ⟨rfl, fun _ => rfl⟩
    | _ => exact step.elim
  rcases either with turn | untouched
  · have settled : (∀ imp, l.imports[i]? = some imp → imp.stage.Over) → l.Untouched e :=
      fun past => untouched_of_eq fun s => after_of_over past turn
    cases hi : l.imports[i]? with
    | none => exact .inl (settled fun imp h => by rw [hi] at h; cases h)
    | some imp =>
      by_cases early : imp.stage.Early
      · rcases turn with rfl | rfl
        · exact .inr (.inl ⟨imp, rfl, early, rfl⟩)
        · exact .inl (untouched_dropImport hi early)
      · obtain ⟨states, stage⟩ := imp
        cases stage with
        | begun | fetching => exact (early trivial).elim
        | computing ticket => exact .inr (.inr ⟨states, ticket, rfl⟩)
        | done | dropped =>
          refine .inl (settled fun imp h => ?_)
          rw [hi] at h
          cases h
          trivial
  · exact .inl untouched

/-! ## Imports without a request -/

/-- **An import was ordered with a request, or it was refused when it came.** -/
theorem ordered_or_refused (hl : l.Fresh) (events : List Event)
    (hi : (l.run events).imports[i]? = some imp) :
    (∃ request, Ordered l events i request) ∨ ∃ error, imp = ⟨[], .done (.error error)⟩ := by
  induction events using List.reverseRecOn generalizing imp with
  | nil =>
    rw [show l.run [] = l from rfl, hl.imports] at hi
    cases hi
  | append_singleton events e ih =>
    have carries := (traced_run hl (events ++ [e])).stages i imp hi
    rw [run_concat] at hi
    rcases (passage_run hl events e).import_before hi with
      ⟨old, hold, step⟩ | ⟨request, rfl⟩ | ⟨error, rfl⟩
    · rcases ih hold with ⟨request, ordered⟩ | ⟨error, rfl⟩
      · exact .inl ⟨request, ordered.append [e]⟩
      · rcases step with rfl | goes
        · exact .inr ⟨error, rfl⟩
        · exact (not_done_of_goes goes _ rfl).elim
    · exact .inl ⟨request, carries.1⟩
    · exact .inr ⟨error, rfl⟩

/-- **All steps of an import that never had a request** leave what imports share alone. -/
theorem untouched_of_unordered (hl : l.Fresh) (step : (l.run before).StepOf i e)
    (unordered : ∀ request, ¬ Ordered l before i request) : (l.run before).Untouched e := by
  have past : ∀ imp, (l.run before).imports[i]? = some imp → ∃ error, imp = ⟨[], .done (.error error)⟩ := by
    intro imp hi
    rcases ordered_or_refused hl before hi with ⟨request, ordered⟩ | refused
    · exact (unordered request ordered).elim
    · exact refused
  rcases untouched_or step with untouched | ⟨imp, hi, early, -⟩ | ⟨states, ticket, hi⟩
  · exact untouched
  · obtain ⟨error, rfl⟩ := past imp hi
    exact early.elim
  · obtain ⟨error, heq⟩ := past _ hi
    cases heq

/-! ## Imports that never ask -/

/-- **A step of an import that never asks the cache** leaves what imports share alone, or it is a turn in
which the import does not ask. -/
theorem untouched_or_silent (hl : l.Fresh) (silent : ∀ d, ¬ Asks l (before ++ e :: later) i d)
    (step : (l.run before).StepOf i e) :
    (l.run before).Untouched e ∨ ∃ imp, (l.run before).imports[i]? = some imp ∧ imp.stage.Early ∧
      e = .pollImport i ∧ ((l.run before).approach i).2 = none := by
  rcases untouched_or step with untouched | ⟨imp, hi, early, rfl⟩ | ⟨states, ticket, hi⟩
  · exact .inl untouched
  · refine .inr ⟨imp, hi, early, rfl, ?_⟩
    rw [Option.eq_none_iff_forall_ne_some]
    intro d asked
    exact silent d ⟨before, _, later, rfl, rfl, asked⟩
  · -- what waits for a computation has asked for it
    cases (linked_run hl before).backed i _ hi with
    | early early => exact early.elim
    | waiting ask => exact (silent _ (ask.append _)).elim

/-- A turn in which an import does not ask changes nothing of the cache and calls no handler. -/
theorem uncalled_of_silent (hi : l.imports[i]? = some imp) (early : imp.stage.Early)
    (silent : (l.approach i).2 = none) : l.Uncalled (.pollImport i) := by
  have turn : l.after (.pollImport i) = (l.approach i).1 := pollImport_of_silent hi early silent
  have approached : (l.approach i).1.flights = l.flights ∧
      (l.approach i).1.computations = l.computations := by
    rcases approached_or_eq l i with heq | ⟨-, -, -, approached⟩
    · rw [heq]
      exact ⟨rfl, rfl⟩
    · exact ⟨approached.flights, approached.computations⟩
  have nears : (l.approach i).1.calls = l.calls := by
    rcases nears_or_eq l i with heq | ⟨old, hold, nears⟩
    · rw [heq]
    · generalize l.approach i = turn at nears ⊢
      cases nears with
      | asks _ _ _ _ calls => exact congrArg Prod.fst calls
      | stops _ _ _ calls => exact congrArg Prod.fst calls
  rw [← turn] at approached nears
  exact ⟨approached.1, approached.2, nears⟩

end Loader

end TypedImport
