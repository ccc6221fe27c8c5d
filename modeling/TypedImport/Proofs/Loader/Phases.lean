import TypedImport.Proofs.Loader.Containment
import TypedImport.Proofs.Loader.Diagnostics
import TypedImport.Proofs.Loader.Early
import TypedImport.Proofs.Loader.LifeCycle
import TypedImport.Proofs.Loader.Steps

/-!
# Errors come in phase order

The assertion of an import is checked first, then its specifier; then its handler is resolved and its asset
loaded, in either order; and only then is the cache asked. An import that ends in an error of one phase has
done nothing of the later ones. `phased_run` says so of every run of a loader.

**Its own computation.** An import that has a computation started waits for that one to its end, so its
error is that of the computation (`awaits_run`); and a computation that has failed is nowhere in the cache.
-/

namespace TypedImport

namespace ImportError

/-- An error that an import is told before it has a request. -/
def Upfront : ImportError → Prop
  | .assertion .. => True
  | .load _ _ _ _ (.unresolved _) => True
  | _ => False

/-- An error of the resolution of a handler. -/
def OfResolution : ImportError → Prop
  | .handlerResolution .. => True
  | _ => False

/-- An error of resolution or loading. -/
def BeforeCache : ImportError → Prop
  | .handlerResolution .. | .load .. => True
  | _ => False

variable {request : ImportRequest} {resolved : Descriptor → Prop} {asked : Demand → Prop}
  {error : ImportError}

/-- An import with a request is told no error of the call. -/
theorem FailedBy.not_upfront (h : error.FailedBy request resolved asked) : ¬ error.Upfront := by
  cases h with
  | unasked early =>
    cases early with
    | resolution => exact id
    | load => exact id
  | broken => exact id
  | changed => exact id

/-- An import that fails in resolution or loading never asks. -/
theorem FailedBy.not_asked (h : error.FailedBy request resolved asked) (before : error.BeforeCache) :
    ∀ d, ¬ asked d := by
  cases h with
  | unasked early none => exact none
  | broken => exact before.elim
  | changed => exact before.elim

/-- No handler is resolved for an import that fails in resolution. -/
theorem FailedBy.not_resolved (h : error.FailedBy request resolved asked)
    (resolution : error.OfResolution) : ∀ d, ¬ resolved d := by
  cases h with
  | unasked early =>
    cases early with
    | resolution none => exact none
    | load => exact resolution.elim
  | broken => exact resolution.elim
  | changed => exact resolution.elim

theorem OfResolution.beforeCache (h : error.OfResolution) : error.BeforeCache := by
  cases error with
  | handlerResolution => trivial
  | _ => exact h.elim

end ImportError

namespace Loader

variable {l l' : Loader} {e : Event} {events before later : List Event} {i c : Nat} {imp old new : Import}
  {request : ImportRequest} {states : List ImportState} {error : ImportError} {specifier : String}
  {referrer : Option Url} {a : Assertion} {bindings : Bindings}

/-! ## The call -/

/-- **A malformed assertion is told**, whatever the specifier comes to. -/
theorem after_of_malformed (l : Loader) (specifier : String) (referrer : Option Url)
    (h : a.Malformed bindings) :
    ∃ url type reason, l.after (.startImport specifier referrer a bindings) =
      l.refuse (.assertion specifier url type reason) := by
  show ∃ url type reason, l.startImport specifier referrer a bindings =
    l.refuse (.assertion specifier url type reason)
  unfold startImport
  dsimp only
  cases Specifier.resolve l.base referrer specifier with
  | error fault =>
    obtain ⟨type, reason, hcheck⟩ := (Assertion.malformed_iff_check specifier specifier).1 h
    rw [hcheck]
    exact ⟨_, type, reason, rfl⟩
  | ok url =>
    obtain ⟨type, reason, hcheck⟩ := (Assertion.malformed_iff_check specifier url.text).1 h
    rw [hcheck]
    exact ⟨_, type, reason, rfl⟩

theorem check_of_not_malformed {url : String} (h : ¬ a.Malformed bindings) :
    a.check specifier url bindings = .ok { a with type := Text.trim a.type } := by
  rw [Assertion.malformed_iff, not_or, not_not] at h
  exact Assertion.check_eq_ok_iff.2 ⟨h.1, h.2, rfl⟩

/-- **A specifier that names no URL is told** if the assertion is good. -/
theorem after_of_unresolved (good : ¬ a.Malformed bindings) {fault : SpecifierFault}
    (unresolved : Specifier.resolve l.base referrer specifier = .error fault) :
    l.after (.startImport specifier referrer a bindings) =
      l.refuse (.load specifier (Text.trim a.type) none 0 (.unresolved fault)) := by
  show l.startImport specifier referrer a bindings = _
  unfold startImport
  dsimp only
  rw [unresolved, check_of_not_malformed good]

/-- An import comes in if neither is at fault. -/
theorem orders_of_good (good : ¬ a.Malformed bindings) {url : Url}
    (resolved : Specifier.resolve l.base referrer specifier = .ok url) :
    ∃ request, Event.Orders l.base request (.startImport specifier referrer a bindings) :=
  ⟨_, .named resolved (ImportRequest.make_eq_ok_iff.2 ⟨_, check_of_not_malformed good, rfl⟩)⟩

/-- An import that was refused stays so. -/
theorem refused_later (hl : l.Fresh) (coming : (l.run before).after e = (l.run before).refuse error)
    (later : List Event) :
    (l.run (before ++ e :: later)).imports[(l.run before).imports.length]? =
      some ⟨[], .done (.error error)⟩ := by
  have came : (l.run (before ++ [e])).imports[(l.run before).imports.length]? =
      some ⟨[], .done (.error error)⟩ := by
    rw [run_concat, coming]
    exact List.getElem?_concat_length
  obtain ⟨new, hnew, -, stuck⟩ := import_later hl came later
  rw [List.append_assoc, List.singleton_append] at hnew
  rw [hnew, stuck _ rfl]

/-- **An import is told an error of its assertion just when that is malformed.** -/
theorem malformed_iff_told (hl : l.Fresh) (before later : List Event) :
    a.Malformed bindings ↔ ∃ url type reason,
      (l.run (before ++ .startImport specifier referrer a bindings :: later)).imports[
        (l.run before).imports.length]? =
          some ⟨[], .done (.error (.assertion specifier url type reason))⟩ := by
  constructor
  · intro h
    obtain ⟨url, type, reason, refused⟩ := after_of_malformed (l.run before) specifier referrer h
    exact ⟨url, type, reason, refused_later hl refused later⟩
  · rintro ⟨url, type, reason, told⟩
    by_contra good
    cases hresolved : Specifier.resolve (l.run before).base referrer specifier with
    | error fault =>
      rw [refused_later hl (after_of_unresolved good hresolved) later] at told
      cases told
    | ok url =>
      obtain ⟨request, orders⟩ := orders_of_good good hresolved
      have ordered : Ordered l (before ++ .startImport specifier referrer a bindings :: later)
          (l.run before).imports.length request := ⟨before, _, later, rfl, orders, rfl⟩
      exact (failedBy_run hl _ told ordered).not_upfront trivial

/-! ## Resolution and loading -/

/-- **No step of an import that fails in resolution or loading** changes the cache or calls a handler. -/
theorem uncalled_of_failed (hl : l.Fresh)
    (ended : (l.run (before ++ e :: later)).imports[i]? = some ⟨states, .done (.error error)⟩)
    (phase : error.BeforeCache) (step : (l.run before).StepOf i e) : (l.run before).Uncalled e := by
  by_cases ordered : ∃ request, Ordered l (before ++ e :: later) i request
  · obtain ⟨request, ordered⟩ := ordered
    have silent := (failedBy_run hl _ ended ordered).not_asked phase
    rcases untouched_or_silent hl silent step with untouched | ⟨imp, hi, early, rfl, quiet⟩
    · exact untouched.uncalled
    · exact uncalled_of_silent hi early quiet
  · exact (untouched_of_unordered hl step fun request h => ordered ⟨request, h.append _⟩).uncalled

/-! ## The first turn -/

/-- **Import `i` of a run has had its first turn**, and then the choice of its handler had to wait for the
media type of its asset, or it need not. -/
def FirstTurn (l : Loader) (events : List Event) (i : Nat) (waits : Bool) : Prop :=
  Happened (fun before e => e = .pollImport i ∧ ∃ states request,
    (l.run before).imports[i]? = some ⟨states, .begun request⟩ ∧
      ((l.run before).resolver.needsMedia request.assertion.handler request.type).1 = waits) events

theorem not_begun_of_goes (h : Goes l i e old new) (request : ImportRequest) :
    new.stage ≠ .begun request := by
  cases h with
  | asked =>
    unfold Demand.outcome
    split <;> simp
  | unresolved | waits | unloaded | resumed | dropped => simp

/-- With its first turn an import is begun no more. -/
theorem not_begun_of_turn (begun : l.imports[i]? = some ⟨states, .begun request⟩) :
    ∃ imp, (l.after (.pollImport i)).imports[i]? = some imp ∧ ∀ other, imp.stage ≠ .begun other := by
  have nears : Nears l i ⟨states, .begun request⟩ (l.approach i) := by
    unfold approach
    rw [begun]
    exact nears_resolveHandler states request
  show ∃ imp, (l.pollImport i).imports[i]? = some imp ∧ ∀ other, imp.stage ≠ .begun other
  rw [pollImport_of_early begun trivial]
  generalize l.approach i = turn at nears
  cases nears with
  | stops goes imports =>
    refine ⟨_, ?_, not_begun_of_goes (goes l)⟩
    dsimp only
    rw [imports, getElem?_set_of_some begun, if_pos rfl]
  | @asks l₀ own _ _ flights imports =>
    obtain ⟨states, stage, himports, late⟩ := serve_imports l₀ i own
    refine ⟨⟨states, stage⟩, ?_, ?_⟩
    · dsimp only
      rw [himports, imports, getElem?_set_of_some begun, if_pos rfl]
    · rintro other rfl
      exact late trivial

/-- After its first turn an import has begun, and it does not begin again. -/
theorem begun_of_firstTurn (hl : l.Fresh) {waits : Bool} (h : FirstTurn l events i waits) :
    ∃ imp, (l.run events).imports[i]? = some imp ∧ ∀ request, imp.stage ≠ .begun request := by
  induction events using List.reverseRecOn with
  | nil => exact (not_happened_nil h).elim
  | append_singleton events e ih =>
    rw [run_concat]
    rcases happened_concat.1 h with hold | ⟨rfl, states, request, begun, -⟩
    · obtain ⟨old, hi, past⟩ := ih hold
      obtain ⟨new, hnew, step⟩ := (passage_run hl events e).import_after hi
      refine ⟨new, hnew, ?_⟩
      rcases step with rfl | goes
      · exact past
      · exact not_begun_of_goes goes
    · exact not_begun_of_turn begun

theorem firstTurn_unique (hl : l.Fresh) {waits waits' : Bool} (h : FirstTurn l events i waits)
    (h' : FirstTurn l events i waits') : waits = waits' := by
  -- an import that has had its first turn is not there to have it again
  have apart : ∀ {waits} {events : List Event} {states request}, FirstTurn l events i waits →
      (l.run events).imports[i]? ≠ some ⟨states, .begun request⟩ := by
    intro waits events states request h begun
    obtain ⟨imp, hi, past⟩ := begun_of_firstTurn hl h
    rw [begun] at hi
    cases hi
    exact past request rfl
  induction events using List.reverseRecOn with
  | nil => exact (not_happened_nil h).elim
  | append_singleton events e ih =>
    rcases happened_concat.1 h with hold | ⟨-, states, request, begun, needs⟩
    · rcases happened_concat.1 h' with hold' | ⟨-, states, request, begun, -⟩
      · exact ih hold hold'
      · exact (apart hold begun).elim
    · rcases happened_concat.1 h' with hold' | ⟨-, states', request', begun', needs'⟩
      · exact (apart hold' begun).elim
      · rw [begun] at begun'
        cases begun'
        exact needs.symm.trans needs'

/-- **What comes of a first turn**: the choice has to wait, or the handler is resolved, or it cannot be. -/
theorem firstTurn_cases (begun : (l.run events).imports[i]? = some ⟨states, .begun request⟩) :
    FirstTurn l (events ++ [.pollImport i]) i true ∨
      (∃ d, Resolved l (events ++ [.pollImport i]) i request d) ∨
        ∃ error, (l.run events).ResolvesEarly i request (.error error) := by
  cases needs : ((l.run events).resolver.needsMedia request.assertion.handler request.type).1 with
  | true => exact .inl (happened_concat.2 (.inr ⟨rfl, states, request, begun, needs⟩))
  | false =>
    cases found : (((l.run events).resolver.needsMedia request.assertion.handler request.type).2.resolve
      request.assertion.handler request.url.text request.type (Media.ofExtension request.url)).1 with
    | ok d => exact .inr (.inl ⟨d, happened_concat.2 (.inr ⟨rfl, .early begun needs found⟩)⟩)
    | error error => exact .inr (.inr ⟨error, ⟨states, begun⟩, needs, found⟩)

/-- **An import that waits for its asset with no handler resolved** has had to wait for the media type. -/
theorem waited_of_fetching (hl : l.Fresh) (events : List Event) {attempt : UInt32} {till : Option Nat}
    (hi : (l.run events).imports[i]? = some ⟨states, .fetching request none attempt till⟩) :
    FirstTurn l events i true := by
  induction events using List.reverseRecOn generalizing states attempt till with
  | nil =>
    rw [show l.run [] = l from rfl, hl.imports] at hi
    cases hi
  | append_singleton events e ih =>
    obtain ⟨order, known⟩ := (traced_run hl (events ++ [e])).stages i _ hi
    have unresolved : ∀ d, ¬ Resolved l (events ++ [e]) i request d := fun d h => nomatch (known d).1 h
    rw [run_concat] at hi
    rcases (passage_run hl events e).import_before hi with
      ⟨old, hold, step⟩ | ⟨other, hnew⟩ | ⟨error, hnew⟩
    · rcases step with rfl | goes
      · exact (ih hold).append [e]
      · have carries := (traced_run hl events).stages i old hold
        obtain ⟨old, stage⟩ := old
        cases stage with
        | begun other =>
          obtain rfl := ordered_unique (carries.1.append [e]) order
          rcases event_of_goes goes with rfl | rfl
          case inr => cases goes
          rcases firstTurn_cases hold with waits | ⟨d, resolved⟩ | ⟨error, fails⟩
          · exact waits
          · exact (unresolved d resolved).elim
          · obtain ⟨states, ended⟩ := after_of_resolvesEarly_error fails
            rw [hi] at ended
            cases ended
        | fetching other known? attempt till =>
          obtain ⟨order', known'⟩ := carries
          obtain rfl := ordered_unique (order'.append [e]) order
          cases known? with
          | none => exact (ih hold).append [e]
          | some d => exact (unresolved d (((known' d).2 rfl).append [e])).elim
        | computing | done | dropped => cases fetchStates?_of_goes goes rfl
    · cases hnew
    · cases hnew

/-- A first turn in which no handler is resolved fetches nothing. -/
theorem unfetched_of_resolvesEarly_error (h : l.ResolvesEarly i request (.error error)) :
    l.Unfetched (.pollImport i) := by
  obtain ⟨states, begun⟩ := h.begun
  have ends := approach_of_resolvesEarly_error h begun
  have here : l.pollImport i = (l.approach i).1 := pollImport_of_silent begun trivial (by rw [ends])
  constructor
  · show (l.pollImport i).feed = l.feed
    rw [here, ends]
    rfl
  · intro feed
    -- with other assets it is still the same turn
    have h' : ({ l with feed := feed } : Loader).ResolvesEarly i request (.error error) :=
      ⟨⟨states, begun⟩, h.needless, h.result⟩
    have ends' := approach_of_resolvesEarly_error h' begun
    have there := pollImport_of_silent (l := { l with feed := feed }) begun trivial (by rw [ends'])
    show ({ l with feed := feed } : Loader).pollImport i = { l.pollImport i with feed := feed }
    rw [here, there, ends, ends']
    rfl

/-- **An import that need not wait for the media type and fails in resolution** fetches nothing. -/
theorem unfetched_of_failed (hl : l.Fresh)
    (ended : (l.run (before ++ e :: later)).imports[i]? = some ⟨states, .done (.error error)⟩)
    (phase : error.OfResolution) (needless : FirstTurn l (before ++ e :: later) i false)
    (step : (l.run before).StepOf i e) : (l.run before).Unfetched e := by
  by_cases ordered : ∃ request, Ordered l (before ++ e :: later) i request
  · obtain ⟨request, ordered⟩ := ordered
    have failed := failedBy_run hl _ ended ordered
    rcases untouched_or_silent hl (failed.not_asked phase.beforeCache) step with
      untouched | ⟨imp, hi, early, rfl, -⟩
    · exact untouched.unfetched
    · -- in this turn no handler is found, and none is waited for
      rw [List.append_cons] at ordered needless failed
      have unresolved : ∀ d, ¬ Resolved l (before ++ [.pollImport i]) i request d :=
        fun d resolved => failed.not_resolved phase d (resolved.append later)
      have waitless : ¬ FirstTurn l (before ++ [.pollImport i]) i true := by
        intro waits
        cases firstTurn_unique hl (waits.append later) needless
      have carries := (traced_run hl before).stages i imp hi
      obtain ⟨states, stage⟩ := imp
      cases stage with
      | computing | done | dropped => exact early.elim
      | begun other =>
        obtain rfl := ordered_unique ((carries.1.append _).append later) ordered
        rcases firstTurn_cases hi with waits | ⟨d, resolved⟩ | ⟨error, fails⟩
        · exact (waitless waits).elim
        · exact (unresolved d resolved).elim
        · exact unfetched_of_resolvesEarly_error fails
      | fetching other known? attempt till =>
        obtain ⟨order, known⟩ := carries
        obtain rfl := ordered_unique ((order.append _).append later) ordered
        cases known? with
        | none => exact (waitless ((waited_of_fetching hl before hi).append _)).elim
        | some d => exact (unresolved d (((known d).2 rfl).append _)).elim
  · exact (untouched_of_unordered hl step fun request h => ordered ⟨request, h.append _⟩).unfetched

/-! ## Its own computation -/

/-- **Where an import is that has had computation `c` started**: it waits for that one, or it has ended as
that one did. -/
def Awaits (l : Loader) (c : Nat) : Import.Stage → Prop
  | .computing t => ∃ tk, l.flights.tickets[t]? = some tk ∧ tk.flight = c
  | .done (.error error) => ∃ f, l.flights.flights[c]? = some f ∧ f.ending = some (.failed error)
  | .done (.ok _) | .dropped => True
  | .begun _ | .fetching .. => False

theorem Awaits.grown {stage : Import.Stage} (h : l.Awaits c stage) (g : Grown l l') :
    l'.Awaits c stage := by
  cases stage with
  | begun | fetching => exact h.elim
  | dropped => trivial
  | computing t =>
    obtain ⟨tk, ht, hc⟩ := h
    obtain ⟨tk', ht', hc', -⟩ := g.flights.ticket t tk ht
    exact ⟨tk', ht', hc'.trans hc⟩
  | done result =>
    cases result with
    | ok served => trivial
    | error error =>
      obtain ⟨f, hf, he⟩ := h
      obtain ⟨f', hf', -, -, kept⟩ := g.flights.flight c f hf
      exact ⟨f', hf', kept _ he⟩

/-- An import that waits for a computation has no more to ask. -/
theorem not_awaits_of_fetchStates? (source : imp.fetchStates? = some states) : ¬ l.Awaits c imp.stage := by
  obtain ⟨old, stage⟩ := imp
  cases stage with
  | begun | fetching => exact id
  | computing | done | dropped => cases source

/-- An import that has waited for a computation is told the error of that one. -/
theorem awaits_of_resume {t : Nat} {result : Except ImportError Served} (h : l.Awaits c (.computing t))
    (unbroken : ∀ f message, l.flights.flights[c]? = some f → f.ending ≠ some (.panicked message))
    (reply : (l.flights.resume t).1 = some result) : l.Awaits c (.done result) := by
  obtain ⟨tk, ht, rfl⟩ := h
  unfold Flights.resume at reply
  split at reply
  next => cases reply
  next tk' f ending hs =>
    obtain ⟨ht', -, hf, he⟩ := Flights.sight?_eq_some_iff.1 hs
    rw [ht] at ht'
    cases ht'
    cases ending with
    | record r =>
      cases reply
      trivial
    | failed error =>
      cases reply
      exact ⟨f, hf, he⟩
    | panicked message => exact (unbroken f message hf he).elim

/-- An import for which a computation is started waits for that one. -/
theorem awaits_of_started (sound : l.flights.Sound) (paired : l.Paired) (none : l.computations[c]? = none)
    {comp : Computation} (started : (l.after (.pollImport i)).computations[c]? = some comp) :
    ∃ states t, (l.after (.pollImport i)).imports[i]? = some ⟨states, .computing t⟩ ∧
      (l.after (.pollImport i)).Awaits c (.computing t) := by
  obtain ⟨own, states, ticket, waits, reply, flights, computations⟩ := attached_of_started none started
  refine ⟨states, ticket, waits, ?_⟩
  -- the new computation has the next number, and so has its flight
  rw [computations] at started
  obtain rfl : c = l.computations.length := by
    rcases Flights.getElem?_append_singleton started with old | ⟨hc, -⟩
    · rw [none] at old
      cases old
    · exact hc
  have answer := sound.answer_request own.key own.asset.fingerprint
  rw [reply, ← flights] at answer
  show ∃ tk, (l.after (.pollImport i)).flights.tickets[ticket]? = some tk ∧
    tk.flight = l.computations.length
  generalize (l.after (.pollImport i)).flights = s' at answer ⊢
  cases answer with
  | started => exact ⟨_, List.getElem?_concat_length, paired.length.symm⟩

/-- **An import that has had a computation started** waits for that one, or has ended as that one did. -/
theorem awaits_run (hl : l.Fresh) (starts : Starts l events i c) :
    ∃ imp, (l.run events).imports[i]? = some imp ∧ (l.run events).Awaits c imp.stage := by
  induction events using List.reverseRecOn with
  | nil => exact (not_happened_nil starts).elim
  | append_singleton events e ih =>
    rw [run_concat]
    rcases happened_concat.1 starts with hold | ⟨rfl, none, comp, started⟩
    · obtain ⟨old, hi, awaits⟩ := ih hold
      have grown := (turn_after (l.run events) e).grown (sound_flights hl events)
      obtain ⟨new, hnew, step⟩ := (passage_run hl events e).import_after hi
      refine ⟨new, hnew, ?_⟩
      rcases step with rfl | goes
      · exact awaits.grown grown
      · cases goes with
        | unresolved => exact awaits.elim
        | waits source | unloaded source | asked source =>
          exact (not_awaits_of_fetchStates? source awaits).elim
        | resumed reply =>
          have unbroken := fun f message hf => unbroken_run (c := c) (f := f) hl events hf message
          exact (awaits_of_resume awaits unbroken reply).grown grown
        | dropped => trivial
    · obtain ⟨states, t, hi, awaits⟩ :=
        awaits_of_started (sound_flights hl events) (paired_run hl events) none started
      exact ⟨_, hi, awaits⟩

/-- **Nothing of a computation that has failed is in the cache.** -/
theorem nothing_of_failed (hl : l.Fresh) (events : List Event) {f : Flight}
    (hf : (l.run events).flights.flights[c]? = some f) (failed : f.ending = some (.failed error))
    (key : CacheKey) :
    ¬ (l.run events).flights.cache.Marks key c ∧
      ∀ made, (l.run events).flights.cache.get? key = some made → made.computation ≠ c := by
  constructor
  · intro marks
    obtain ⟨f', hf', -, under⟩ := under_of_marks hl events marks
    rw [hf] at hf'
    cases hf'
    rw [failed] at under
    cases under
  · rintro made kept rfl
    obtain ⟨f', hf', -, record⟩ := (sound_flights hl events).ready key made (Cache.get?_eq_some_iff.1 kept)
    rw [hf] at hf'
    cases hf'
    rw [failed] at record
    cases record

/-! ## All phases -/

/-- **The errors of a run come in phase order**, and leave no trace of later phases. -/
structure Phased (l : Loader) (events : List Event) : Prop where
  /-- An import by name is told an error of its assertion just when that is malformed, whatever its
  specifier comes to. -/
  malformed : ∀ before specifier referrer a bindings later,
    events = before ++ .startImport specifier referrer a bindings :: later →
    (a.Malformed bindings ↔ ∃ url type reason,
      (l.run events).imports[(l.run before).imports.length]? =
        some ⟨[], .done (.error (.assertion specifier url type reason))⟩)
  /-- One with a good assertion is told that its specifier names no URL. -/
  unresolved : ∀ before specifier referrer (a : Assertion) bindings later fault,
    events = before ++ .startImport specifier referrer a bindings :: later → ¬ a.Malformed bindings →
    Specifier.resolve (l.run before).base referrer specifier = .error fault →
    (l.run events).imports[(l.run before).imports.length]? =
      some ⟨[], .done (.error (.load specifier (Text.trim a.type) none 0 (.unresolved fault)))⟩
  /-- An import that is told either has touched nothing that imports share. -/
  untouched : ∀ before e later (i : Nat) states error, events = before ++ e :: later →
    (l.run events).imports[i]? = some ⟨states, .done (.error error)⟩ → error.Upfront →
    (l.run before).StepOf i e → (l.run before).Untouched e
  /-- One whose choice of a handler need not wait and that fails in resolution has fetched nothing. -/
  unfetched : ∀ before e later (i : Nat) states error, events = before ++ e :: later →
    (l.run events).imports[i]? = some ⟨states, .done (.error error)⟩ → error.OfResolution →
    FirstTurn l events i false → (l.run before).StepOf i e → (l.run before).Unfetched e
  /-- One that fails in resolution or loading has changed nothing of the cache, and no handler was called in
  its steps. -/
  uncalled : ∀ before e later (i : Nat) states error, events = before ++ e :: later →
    (l.run events).imports[i]? = some ⟨states, .done (.error error)⟩ → error.BeforeCache →
    (l.run before).StepOf i e → (l.run before).Uncalled e
  /-- One that has had a computation started and ends in an error is told that of the computation. -/
  own : ∀ (i c : Nat) states error, Starts l events i c →
    (l.run events).imports[i]? = some ⟨states, .done (.error error)⟩ →
    ∃ f, (l.run events).flights.flights[c]? = some f ∧ f.ending = some (.failed error)
  /-- A computation that was started for an import and has failed has neither a mark nor a record, at any
  key. -/
  bare : ∀ (i c : Nat) f error, Starts l events i c → (l.run events).flights.flights[c]? = some f →
    f.ending = some (.failed error) → ∀ key, ¬ (l.run events).flights.cache.Marks key c ∧
      ∀ made, (l.run events).flights.cache.get? key = some made → made.computation ≠ c

/-- **The errors of every run of every loader come in phase order.** -/
theorem phased_run (config : Config) (base : Option Url) (registry : Registry) (native : NativeMemo)
    (modules : ModuleTable) (feed : Feed) (events : List Event) :
    Phased (build config base registry native modules feed) events := by
  have hl := fresh_build config base registry native modules feed
  refine ⟨?malformed, ?unresolved, ?untouched, ?unfetched, ?uncalled, ?own, ?bare⟩
  case malformed =>
    rintro before specifier referrer a bindings later rfl
    exact malformed_iff_told hl before later
  case unresolved =>
    rintro before specifier referrer a bindings later fault rfl good unresolved
    exact refused_later hl (after_of_unresolved good unresolved) later
  case untouched =>
    rintro before e later i states error rfl ended upfront step
    refine untouched_of_unordered hl step fun request ordered => ?_
    exact (failedBy_run hl _ ended (ordered.append _)).not_upfront upfront
  case unfetched =>
    rintro before e later i states error rfl ended phase needless step
    exact unfetched_of_failed hl ended phase needless step
  case uncalled =>
    rintro before e later i states error rfl ended phase step
    exact uncalled_of_failed hl ended phase step
  case own =>
    intro i c states error starts ended
    obtain ⟨imp, hi, awaits⟩ := awaits_run hl starts
    rw [ended] at hi
    cases hi
    exact awaits
  case bare =>
    intro i c f error starts hf failed key
    exact nothing_of_failed hl events hf failed key

end Loader

end TypedImport
