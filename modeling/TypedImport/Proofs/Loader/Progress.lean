import TypedImport.Proofs.Loader.Demands

/-!
# How imports go on

An import goes on by turns, and in each of them it goes through the states that its new stage calls for
(`Goes`). `Passage` says of every event what it makes of the imports, the counters and the calls of
handlers: it lets an import in, or lets one go on, or lets a handler be called, or does neither; and the
counters are written by what an import has come to (`Stats.after`). That the list is complete is
`passage_after`; what a run keeps is proved from it.

**Hits.** The state of a hit is entered by a look at the cache right before the cache is asked. Both see
the same entry (`cached_iff`), and a request that waits is never told of a hit (`TellsNoHit`). So an import
that is told of one has entered that state.
-/

namespace TypedImport

namespace Flights

variable {s s' : Flights} {e : Event} {key : CacheKey} {fingerprint : String} {t : Nat} {tk : Ticket}

/-! ## Hits -/

/-- No request that waits is one to be told of a hit. -/
def TellsNoHit (s : Flights) : Prop :=
  ∀ (t : Nat) (tk : Ticket), s.tickets[t]? = some tk → tk.status ≠ .hit

/-- Only a request is given a number, and it is given the next one. -/
theorem Step.length_tickets (h : Step s e s') :
    s'.tickets.length = s.tickets.length ∨
      ∃ key fingerprint, e = .request key fingerprint ∧ s'.tickets.length = s.tickets.length + 1 := by
  cases h with
  | answered | unfinished | unresumed | undropped | cleared | invalidated | finished => exact .inl rfl
  | joined => exact .inr ⟨_, _, rfl, by simp⟩
  | joinedLate => exact .inr ⟨_, _, rfl, by simp⟩
  | started => exact .inr ⟨_, _, rfl, by simp⟩
  | resumed => simp [setTicket]
  | dropped => simp [setTicket]

theorem Step.tellsNoHit (h : Step s e s') (none : s.TellsNoHit) : s'.TellsNoHit := by
  intro t tk ht
  have inside := (List.getElem?_eq_some_iff.1 ht).1
  by_cases old : t < s.tickets.length
  · have before := List.getElem?_eq_getElem old
    obtain ⟨tk', ht', -, hstatus, -⟩ := h.grows.ticket t _ before
    rw [ht] at ht'
    cases ht'
    rw [hstatus]
    exact none t _ before
  · rcases h.length_tickets with hsame | ⟨key, fingerprint, rfl, hmore⟩
    · omega
    · obtain rfl : t = s.tickets.length := by omega
      rcases h.ticket_new ht with ⟨hstatus, -⟩ | ⟨hstatus, -⟩ <;> simp [hstatus]

theorem tellsNoHit_run (events : List Event) : (run {} events).TellsNoHit := by
  induction events using List.reverseRecOn with
  | nil =>
    intro t tk ht
    cases ht
  | append_singleton events e ih =>
    rw [run_concat]
    exact (step_after (sound_run events) e).tellsNoHit ih

/-- What a request is told that has waited is no hit. -/
theorem TellsNoHit.status_of_resume (h : s.TellsNoHit) {served : Served}
    (reply : (s.resume t).1 = some (.ok served)) : served.status ≠ .hit := by
  unfold resume at reply
  split at reply
  next => cases reply
  next tk f ending hs =>
    obtain ⟨ht, -⟩ := sight?_eq_some_iff.1 hs
    have told : resultOf tk.flight f.key tk.status ending = .ok served := Option.some.inj reply
    cases ending with
    | record r =>
      cases told
      exact h t tk ht
    | failed error => cases told
    | panicked message => cases told

/-- **A look at the cache tells whether a request would hit.** -/
theorem cached_iff (s : Flights) (key : CacheKey) (fingerprint : String) :
    ((s.cache.get? key).any fun made => made.record.fingerprint = fingerprint) = true ↔
      ∃ made, s.cache.lookup key fingerprint = .hit made := by
  simp [Option.any_eq_true, Cache.get?_eq_some_iff, Cache.lookup_eq_hit_iff]

end Flights

/-! ## The states of a turn -/

/-- The state in which an import ends. -/
def ImportState.ofResult : Except ImportError Served → ImportState
  | .ok _ => .completed
  | .error _ => .failed

/-- The states that an import has gone through by the time its asset is fetched, if it still has to ask
the cache. -/
def Import.fetchStates? (imp : Import) : Option (List ImportState) :=
  match imp.stage with
  | .begun _ => some (imp.states ++ [.resolvingHandler] ++ [.loadingSource])
  | .fetching .. => some imp.states
  | _ => none

/-- **What an import is after it has asked the cache**, by the reply. -/
def Demand.outcome (own : Demand) : Reply → Import
  | .now (.ok served) =>
    ⟨own.states ++ [if served.status = .hit then .cacheHit else .invoking] ++ [.completed],
      .done (.ok served)⟩
  | .now (.error error) => ⟨own.states ++ [.invoking] ++ [.failed], .done (.error error)⟩
  | .later ticket _ => ⟨own.states ++ [.invoking], .computing ticket⟩

/-- An import asks the cache once. -/
theorem Demand.fetchStates?_outcome (own : Demand) (reply : Reply) :
    (own.outcome reply).fetchStates? = none := by
  unfold Demand.outcome
  split <;> rfl

/-- The handler of a computation has been called. -/
def Computation.isCalled (comp : Computation) : Bool :=
  match comp.stage with
  | .begun => false
  | _ => true

theorem Computation.isCalled_eq_false_iff {comp : Computation} :
    comp.isCalled = false ↔ comp.stage = .begun := by
  unfold isCalled
  cases comp.stage <;> simp

theorem Computation.isCalled_of_ne {comp : Computation} (past : comp.stage ≠ .begun) :
    comp.isCalled = true := by
  simpa using mt isCalled_eq_false_iff.1 past

/-- **The counters after an import has come to a stage.** -/
def Stats.after (s : Stats) : Import.Stage → Stats
  | .done (.ok served) => Loader.countServed s served.status
  | .done (.error _) => { s with failures := s.failures + 1 }
  | _ => s

/-- What becomes of an import does not count bytes. -/
theorem Stats.after_bytes (s : Stats) (bytes : Nat) (stage : Import.Stage) :
    Stats.after { s with bytes := bytes } stage = { s.after stage with bytes := bytes } := by
  cases stage with
  | done result =>
    cases result with
    | ok served =>
      obtain ⟨made, status⟩ := served
      cases status <;> rfl
    | error e => rfl
  | _ => rfl

theorem Stats.bytes_after (s : Stats) (stage : Import.Stage) : (s.after stage).bytes = s.bytes := by
  show (Stats.after { s with bytes := s.bytes } stage).bytes = s.bytes
  rw [s.after_bytes]

namespace Loader

variable {l l' : Loader} {e : Event} {i c : Nat} {old new : Import} {own : Demand}
  {states : List ImportState}

/-! ## Calls -/

/-- Of each computation, whether its handler was called. -/
def marks (l : Loader) : List Bool :=
  l.computations.map Computation.isCalled

/-- **What a loader has done of calls**: how often it called each handler, and for which computations. -/
def callRecord (l : Loader) : Table HandlerId Nat × List Bool :=
  (l.calls, l.marks)

theorem marks_eq_some_iff {called : Bool} :
    l.marks[c]? = some called ↔ ∃ comp, l.computations[c]? = some comp ∧ comp.isCalled = called := by
  simp [marks]

/-- A computation that goes on or ends has had its handler called. -/
theorem marks_setComputation (l : Loader) (c : Nat) {stage : Computation.Stage} (past : stage ≠ .begun) :
    (l.setComputation c stage).marks = l.marks.set c true := by
  have isCalled : ∀ comp : Computation, ({ comp with stage := stage } : Computation).isCalled = true := by
    intro comp
    exact Computation.isCalled_of_ne past
  apply List.ext_getElem?
  intro n
  simp only [marks, setComputation, List.getElem?_map, List.getElem?_modify, List.getElem?_set]
  by_cases hn : c = n
  · subst hn
    cases hc : l.computations[c]? with
    | none => simp [List.getElem?_eq_none_iff.1 hc]
    | some comp => simp [isCalled, (List.getElem?_eq_some_iff.1 hc).1]
  · simp [hn]

/-- **Import `i` goes on** in an event, from what it was to what it is. -/
inductive Goes (l : Loader) (i : Nat) : Event → Import → Import → Prop where
  /-- No handler is resolved for it. -/
  | unresolved {states : List ImportState} {request : ImportRequest} {error : ImportError} :
      Goes l i (.pollImport i) ⟨states, .begun request⟩
        ⟨states ++ [.resolvingHandler] ++ [.failed], .done (.error error)⟩
  /-- It waits for its asset. -/
  | waits {old : Import} {states : List ImportState} {request : ImportRequest} {early : Option Descriptor}
      {attempt : UInt32} {till : Option Nat} (source : old.fetchStates? = some states) :
      Goes l i (.pollImport i) old ⟨states, .fetching request early attempt till⟩
  /-- There is no asset for it, or no handler for its asset. -/
  | unloaded {old : Import} {states : List ImportState} {error : ImportError}
      (source : old.fetchStates? = some states) :
      Goes l i (.pollImport i) old ⟨states ++ [.failed], .done (.error error)⟩
  /-- It asks the cache. -/
  | asked {old : Import} {own : Demand} (source : old.fetchStates? = some own.states)
      (demand : (l.approach i).2 = some own) :
      Goes l i (.pollImport i) old (own.outcome (l.flights.request own.key own.asset.fingerprint).1)
  /-- It has waited and is answered. -/
  | resumed {states : List ImportState} {ticket : Nat} {result : Except ImportError Served}
      (reply : (l.flights.resume ticket).1 = some result) :
      Goes l i (.pollImport i) ⟨states, .computing ticket⟩ ⟨states ++ [.ofResult result], .done result⟩
  /-- It is dropped before it has ended. -/
  | dropped {old : Import} (under : ∀ result, old.stage ≠ .done result) :
      Goes l i (.dropImport i) old ⟨old.states, .dropped⟩

/-! ## A turn up to the question to the cache -/

/-- **A turn of import `i` up to the question to the cache**, as far as imports, counters and calls are
concerned. -/
inductive Nears (l : Loader) (i : Nat) (old : Import) : Loader × Option Demand → Prop where
  | asks {l₀ : Loader} {own : Demand} {bytes : Nat} (source : old.fetchStates? = some own.states)
      (flights : l₀.flights = l.flights) (imports : l₀.imports = l.imports)
      (stats : l₀.stats = { l.stats with bytes := bytes }) (calls : l₀.callRecord = l.callRecord)
      (grows : l.stats.bytes ≤ bytes) : Nears l i old (l₀, some own)
  | stops {l₀ : Loader} {new : Import} {bytes : Nat} (goes : ∀ l, Goes l i (.pollImport i) old new)
      (imports : l₀.imports = l.imports.set i new)
      (stats : l₀.stats = { l.stats.after new.stage with bytes := bytes })
      (calls : l₀.callRecord = l.callRecord) (grows : l.stats.bytes ≤ bytes) : Nears l i old (l₀, none)

theorem Nears.of {turn : Loader × Option Demand} (h : Nears l' i old turn)
    (flights : l'.flights = l.flights) (imports : l'.imports = l.imports) (stats : l'.stats = l.stats)
    (calls : l'.callRecord = l.callRecord) : Nears l i old turn := by
  cases h with
  | asks source hf hi hs hc grows =>
    exact .asks source (hf.trans flights) (hi.trans imports) (stats ▸ hs) (hc.trans calls) (stats ▸ grows)
  | stops goes hi hs hc grows =>
    exact .stops goes (imports ▸ hi) (stats ▸ hs) (hc.trans calls) (stats ▸ grows)

theorem nears_receive (source : old.fetchStates? = some states) (request : ImportRequest)
    (early : Option Descriptor) (fetched : Fetched) :
    Nears l i old (l.receive i states request early fetched) := by
  unfold receive
  cases early with
  | some d => exact .asks source rfl rfl rfl rfl (Nat.le_add_right ..)
  | none =>
    dsimp only
    split
    · exact .asks source rfl rfl rfl rfl (Nat.le_add_right ..)
    · exact .stops (fun _ => .unloaded source) rfl rfl rfl (Nat.le_add_right ..)

theorem nears_fetchAsset (source : old.fetchStates? = some states) (request : ImportRequest)
    (early : Option Descriptor) (attempt : UInt32) :
    Nears l i old (l.fetchAsset i states request early attempt) := by
  unfold fetchAsset
  split
  · exact .stops (fun _ => .waits source) rfl rfl rfl (Nat.le_refl _)
  · dsimp only
    split
    · exact (nears_receive source ..).of rfl rfl rfl rfl
    · split
      · exact .stops (fun _ => .waits source) rfl rfl rfl (Nat.le_refl _)
      · exact .stops (fun _ => .unloaded source) rfl rfl rfl (Nat.le_refl _)

theorem nears_resolveHandler (states : List ImportState) (request : ImportRequest) :
    Nears l i ⟨states, .begun request⟩ (l.resolveHandler i states request) := by
  have source : Import.fetchStates? ⟨states, .begun request⟩ =
      some (states ++ [.resolvingHandler] ++ [.loadingSource]) := rfl
  unfold resolveHandler
  dsimp only
  split
  · exact (nears_fetchAsset source ..).of rfl rfl rfl rfl
  · split
    · exact (nears_fetchAsset source ..).of rfl rfl rfl rfl
    · exact .stops (fun _ => .unresolved) rfl rfl rfl (Nat.le_refl _)

/-- An import that has not asked the cache nears it in its turn, unless it has to wait for the time. -/
theorem nears_or_eq (l : Loader) (i : Nat) :
    l.approach i = (l, none) ∨ ∃ old, l.imports[i]? = some old ∧ Nears l i old (l.approach i) := by
  unfold approach
  split
  next states request hi => exact .inr ⟨_, hi, nears_resolveHandler states request⟩
  next states request early attempt till hi =>
    split
    · exact .inr ⟨_, hi, nears_fetchAsset rfl request early attempt⟩
    · exact .inl rfl
  next => exact .inl rfl

/-! ## The question to the cache -/

/-- On its way to the question a turn leaves the cache and the imports alone. -/
theorem approach_of_asked (asked : (l.approach i).2 = some own) :
    (l.approach i).1.flights = l.flights ∧ (l.approach i).1.imports = l.imports := by
  rcases approached_or_eq l i with heq | ⟨old, -, -, approached⟩
  · rw [heq] at asked
    cases asked
  · exact ⟨approached.flights, approached.asked own asked⟩

theorem finishImport_eq (states : List ImportState) (result : Except ImportError Served) :
    (l.finishImport i states result).imports =
        l.imports.set i ⟨states ++ [.ofResult result], .done result⟩ ∧
      (l.finishImport i states result).stats = l.stats.after (.done result) ∧
      (l.finishImport i states result).callRecord = l.callRecord := by
  cases result <;> exact ⟨rfl, rfl, rfl⟩

/-- **An import that asks the cache comes to what the reply makes of it.** No handler is called for it
in the same turn. -/
theorem serve_eq (sound : l.flights.Sound) (own : Demand) :
    (l.serve i own).imports =
        l.imports.set i (own.outcome (l.flights.request own.key own.asset.fingerprint).1) ∧
      (l.serve i own).stats =
        l.stats.after (own.outcome (l.flights.request own.key own.asset.fingerprint).1).stage ∧
      ((l.serve i own).callRecord = l.callRecord ∨
        (l.serve i own).callRecord = (l.calls, l.marks ++ [false])) := by
  have cached := l.flights.cached_iff own.key own.asset.fingerprint
  unfold serve
  dsimp only
  by_cases hit : ∃ made, l.flights.cache.lookup own.key own.asset.fingerprint = .hit made
  · obtain ⟨made, hlook⟩ := hit
    rw [cached.2 ⟨made, hlook⟩, Flights.request_of_hit hlook]
    obtain ⟨imports, stats, calls⟩ := finishImport_eq (l := l) (i := i)
      (own.states ++ [.cacheHit]) (.ok ⟨made, .hit⟩)
    exact ⟨imports, stats, .inl calls⟩
  · have answer := sound.answer_request own.key own.asset.fingerprint
    rw [Bool.eq_false_iff.2 (mt cached.1 hit)]
    cases hr : l.flights.request own.key own.asset.fingerprint with
    | mk reply flights =>
      rw [hr] at answer
      dsimp only
      cases answer with
      | hit entry same => exact absurd ⟨_, Cache.lookup_eq_hit_iff.2 ⟨entry, same⟩⟩ hit
      | refused => exact ⟨rfl, rfl, .inl rfl⟩
      | joined => exact ⟨rfl, rfl, .inl rfl⟩
      | started => exact ⟨rfl, rfl, .inr (by simp [callRecord, marks, setImport, Demand.computation,
          Computation.isCalled])⟩

/-! ## What an event does -/

/-- An event lets an import in. -/
def Event.isImport : Event → Bool
  | .startImport .. | .submit _ => true
  | _ => false

/-- **The computation whose handler is called** in an event: one that has its first turn. -/
def called? (l : Loader) : Event → Option Nat
  | .pollComputation c => if (l.computations[c]?).any fun comp => !comp.isCalled then some c else none
  | _ => none

theorem called?_eq_some_iff :
    l.called? e = some c ↔
      e = .pollComputation c ∧ ∃ comp, l.computations[c]? = some comp ∧ comp.stage = .begun := by
  cases e with
  | pollComputation n =>
    simp only [called?, Event.pollComputation.injEq]
    constructor
    · intro h
      split at h
      next fresh =>
        cases h
        simpa [Option.any_eq_true, Computation.isCalled_eq_false_iff] using fresh
      next => cases h
    · rintro ⟨rfl, comp, hc, hs⟩
      simp [hc, Computation.isCalled_eq_false_iff.2 hs]
  | _ => simp [called?]

/-- **What an event does to the imports, the counters and the calls.** -/
inductive Passage (l : Loader) : Event → Loader → Prop where
  /-- Nothing. -/
  | still {e : Event} {l' : Loader} (silent : e.isImport = false) (uncalled : l.called? e = none)
      (imports : l'.imports = l.imports) (stats : l'.stats = l.stats)
      (calls : l'.callRecord = l.callRecord) : Passage l e l'
  /-- A handler is called. -/
  | called {e : Event} {l' : Loader} {c : Nat} {id : HandlerId} (silent : e.isImport = false)
      (call : l.called? e = some c) (imports : l'.imports = l.imports)
      (stats : l'.stats = { l.stats with invocations := l.stats.invocations + 1 })
      (calls : l'.callRecord =
        (l.calls.put id ((l.calls.get? id).getD 0 + 1), l.marks.set c true)) : Passage l e l'
  /-- An import comes in. -/
  | came {e : Event} {l' : Loader} (coming : e.isImport = true) (request : ImportRequest)
      (imports : l'.imports = l.imports ++ [⟨[.pending], .begun request⟩])
      (stats : l'.stats = { l.stats with imports := l.stats.imports + 1 })
      (calls : l'.callRecord = l.callRecord) : Passage l e l'
  /-- An import is refused. -/
  | refused {e : Event} {l' : Loader} (coming : e.isImport = true) (error : ImportError)
      (imports : l'.imports = l.imports ++ [⟨[], .done (.error error)⟩])
      (stats : l'.stats =
        { l.stats with imports := l.stats.imports + 1, failures := l.stats.failures + 1 })
      (calls : l'.callRecord = l.callRecord) : Passage l e l'
  /-- An import goes on, and a computation may be started for it. -/
  | went {e : Event} {l' : Loader} {i : Nat} {old new : Import} {bytes : Nat}
      (before : l.imports[i]? = some old) (goes : Goes l i e old new)
      (imports : l'.imports = l.imports.set i new)
      (stats : l'.stats = { l.stats.after new.stage with bytes := bytes })
      (calls : l'.callRecord = l.callRecord ∨
        old.fetchStates?.isSome = true ∧ new.fetchStates? = none ∧
          l'.callRecord = (l.calls, l.marks ++ [false]))
      (grows : l.stats.bytes ≤ bytes) : Passage l e l'

theorem passage_startImport (specifier : String) (referrer : Option Url) (a : Assertion)
    (bindings : Bindings) :
    Passage l (.startImport specifier referrer a bindings)
      (l.startImport specifier referrer a bindings) := by
  have refused : ∀ error, Passage l (.startImport specifier referrer a bindings) (l.refuse error) :=
    fun error => .refused rfl error rfl rfl rfl
  unfold startImport
  dsimp only
  split
  · exact refused _
  · split
    · exact refused _
    · split
      · exact refused _
      · exact .came rfl _ rfl rfl rfl

theorem passage_pollImport (sound : l.flights.Sound) (i : Nat) :
    Passage l (.pollImport i) (l.pollImport i) := by
  unfold pollImport
  split
  next states ticket hi =>
    cases hr : l.flights.resume ticket with
    | mk reply flights =>
      cases reply with
      | none => exact .still rfl rfl rfl rfl rfl
      | some result =>
        obtain ⟨himports, hstats, hcalls⟩ := finishImport_eq (l := { l with flights := flights })
          (i := i) states result
        exact .went hi (.resumed (by rw [hr])) himports hstats (.inl hcalls)
          (Nat.le_of_eq (l.stats.bytes_after _).symm)
  next =>
    rcases nears_or_eq l i with heq | ⟨old, hi, nears⟩
    · rw [heq]
      exact .still rfl rfl rfl rfl rfl
    · cases hr : l.approach i with
      | mk l₀ demand =>
        rw [hr] at nears
        cases nears with
        | stops goes imports stats calls grows => exact .went hi (goes l) imports stats (.inl calls) grows
        | @asks _ own bytes source flights imports stats calls grows =>
          obtain ⟨himports, hstats, hcalls⟩ := serve_eq (i := i) (flights ▸ sound) own
          obtain ⟨hcount, hmarks⟩ := Prod.ext_iff.1 calls
          rw [flights, imports] at himports
          rw [flights, stats, Stats.after_bytes] at hstats
          rw [calls, show l₀.calls = l.calls from hcount, show l₀.marks = l.marks from hmarks] at hcalls
          have asks : old.fetchStates?.isSome = true := by rw [source, Option.isSome_some]
          exact .went hi (.asked source (by rw [hr])) himports hstats
            (hcalls.imp_right fun started => ⟨asks, own.fetchStates?_outcome _, started⟩) grows

theorem passage_dropImport (l : Loader) (i : Nat) : Passage l (.dropImport i) (l.dropImport i) := by
  unfold dropImport
  split
  · exact .still rfl rfl rfl rfl rfl
  next states ticket hi => exact .went hi (.dropped (by simp)) rfl rfl (.inl rfl) (Nat.le_refl _)
  next states stage hdone hcomputing hi =>
    exact .went hi (.dropped fun result h => hdone result (h ▸ rfl)) rfl rfl (.inl rfl) (Nat.le_refl _)
  · exact .still rfl rfl rfl rfl rfl

theorem continueWork_eq (l : Loader) (c : Nat) (comp : Computation) (step : Work ⊕ CallEnd) :
    (l.continueWork c comp step).imports = l.imports ∧ (l.continueWork c comp step).stats = l.stats ∧
      (l.continueWork c comp step).callRecord = (l.calls, l.marks.set c true) := by
  cases step with
  | inl work => exact ⟨rfl, rfl, Prod.ext rfl (marks_setComputation l c (by simp))⟩
  | inr ending => exact ⟨rfl, rfl, Prod.ext rfl (marks_setComputation _ c (by simp))⟩

/-- When a handler has been called, it makes no difference to the calls that its computation goes on. -/
theorem marks_set_of_called {comp : Computation} (hc : l.computations[c]? = some comp)
    (past : comp.stage ≠ .begun) : l.marks.set c true = l.marks := by
  obtain ⟨inside, hget⟩ :=
    List.getElem?_eq_some_iff.1 (marks_eq_some_iff.2 ⟨comp, hc, Computation.isCalled_of_ne past⟩)
  rw [← hget, List.set_getElem_self]

theorem passage_pollComputation (l : Loader) (c : Nat) :
    Passage l (.pollComputation c) (l.pollComputation c) := by
  have uncalled : (∀ comp, l.computations[c]? = some comp → comp.stage ≠ .begun) →
      l.called? (.pollComputation c) = none := by
    intro late
    rw [Option.eq_none_iff_forall_ne_some]
    intro n call
    obtain ⟨he, comp, hc, hs⟩ := called?_eq_some_iff.1 call
    cases he
    exact late comp hc hs
  unfold pollComputation
  split
  next comp hc =>
    split
    next hs =>
      have call : l.called? (.pollComputation c) = some c := called?_eq_some_iff.2 ⟨rfl, comp, hc, hs⟩
      unfold callHandler
      dsimp only
      split
      · exact .called rfl call rfl rfl (Prod.ext rfl (marks_setComputation _ c (by simp)))
      · obtain ⟨imports, stats, calls⟩ := continueWork_eq ..
        exact .called rfl call imports stats calls
    next work hs =>
      have none := uncalled fun comp' hc' => by
        rw [hc] at hc'
        cases hc'
        simp [hs]
      obtain ⟨imports, stats, calls⟩ := continueWork_eq ..
      rw [marks_set_of_called hc (by simp [hs])] at calls
      exact .still rfl none imports stats calls
    next hs =>
      have none := uncalled fun comp' hc' => by
        rw [hc] at hc'
        cases hc'
        simp [hs]
      exact .still rfl none rfl rfl rfl
  next hc => exact .still rfl (uncalled fun comp hcomp => by simp [hc] at hcomp) rfl rfl rfl

theorem passage_pollHandler (l : Loader) (c : Nat) : Passage l (.pollHandler c) (l.pollHandler c) := by
  unfold pollHandler
  split
  next comp hc =>
    split
    next work hs =>
      have past : Computation.Stage.working (work.pollTask l.now l.isOpen) ≠ .begun := by simp
      have same := marks_setComputation l c past
      rw [marks_set_of_called hc (by simp [hs])] at same
      exact .still rfl rfl rfl rfl (Prod.ext rfl same)
    next => exact .still rfl rfl rfl rfl rfl
  next => exact .still rfl rfl rfl rfl rfl

/-- **Every event is a passage.** -/
theorem passage_after (sound : l.flights.Sound) (e : Event) : Passage l e (l.after e) := by
  cases e with
  | startImport specifier referrer a bindings => exact passage_startImport specifier referrer a bindings
  | submit request => exact .came rfl request rfl rfl rfl
  | pollImport i => exact passage_pollImport sound i
  | pollComputation c => exact passage_pollComputation l c
  | pollHandler c => exact passage_pollHandler l c
  | dropImport i => exact passage_dropImport l i
  | define | registerModule | clear | invalidate | changeFeed | changeHost | openGate | pass =>
    exact .still rfl rfl rfl rfl rfl

theorem passage_run (hl : l.Fresh) (events : List Event) (e : Event) :
    Passage (l.run events) e ((l.run events).after e) :=
  passage_after (sound_flights hl events) e

theorem tellsNoHit_flights (hl : l.Fresh) (events : List Event) : (l.run events).flights.TellsNoHit := by
  obtain ⟨history, hrun, -⟩ := exists_cache_run hl events
  rw [hrun]
  exact Flights.tellsNoHit_run history

/-! ## What stays -/

theorem event_of_goes (h : Goes l i e old new) : e = .pollImport i ∨ e = .dropImport i := by
  cases h with
  | dropped => exact .inr rfl
  | unresolved | waits | unloaded | asked | resumed => exact .inl rfl

theorem not_done_of_goes (h : Goes l i e old new) (result : Except ImportError Served) :
    old.stage ≠ .done result := by
  intro done
  obtain ⟨states, stage⟩ := old
  cases done
  cases h with
  | waits source => cases source
  | unloaded source => cases source
  | asked source demand => cases source
  | dropped under => exact under result rfl

/-- An import that has no more to ask has no more to ask later. -/
theorem fetchStates?_of_goes (h : Goes l i e old new) (past : old.fetchStates? = none) :
    new.fetchStates? = none := by
  cases h with
  | unresolved => cases past
  | waits source | unloaded source | asked source =>
    rw [source] at past
    cases past
  | resumed | dropped => rfl

/-- An import goes through more states, and takes none back. -/
theorem states_of_goes (h : Goes l i e old new) : old.states <+: new.states := by
  have source : ∀ {states : List ImportState}, old.fetchStates? = some states → old.states <+: states := by
    intro states hs
    unfold Import.fetchStates? at hs
    split at hs
    · cases hs
      simp
    · cases hs
      exact List.prefix_rfl
    · cases hs
  cases h with
  | unresolved => simp
  | waits hs => exact source hs
  | unloaded hs => exact (source hs).trans (List.prefix_append ..)
  | asked hs demand =>
    refine (source hs).trans ?_
    unfold Demand.outcome
    split <;> simp
  | resumed => simp
  | dropped => exact List.prefix_rfl

/-- **An event leaves an import as it was, or lets it go on.** -/
theorem Passage.import_after (h : Passage l e l') (hi : l.imports[i]? = some old) :
    ∃ new, l'.imports[i]? = some new ∧ (new = old ∨ Goes l i e old new) := by
  have appended : ∀ {more}, l'.imports = l.imports ++ more →
      ∃ new, l'.imports[i]? = some new ∧ (new = old ∨ Goes l i e old new) := by
    intro more imports
    refine ⟨old, ?_, .inl rfl⟩
    rw [imports, List.getElem?_append_left (List.getElem?_eq_some_iff.1 hi).1, hi]
  cases h with
  | still _ _ imports => exact ⟨old, imports ▸ hi, .inl rfl⟩
  | called _ _ imports => exact ⟨old, imports ▸ hi, .inl rfl⟩
  | came _ _ imports => exact appended imports
  | refused _ _ imports => exact appended imports
  | @went k old' new _ before goes imports =>
    rw [imports, getElem?_set_of_some before]
    by_cases hk : i = k
    · subst hk
      rw [hi] at before
      cases before
      exact ⟨new, if_pos rfl, .inr goes⟩
    · exact ⟨old, by rw [if_neg hk, hi], .inl rfl⟩

/-- **What is there of an import after an event** was there before, or has just come in. -/
theorem Passage.import_before (h : Passage l e l') (hi : l'.imports[i]? = some new) :
    (∃ old, l.imports[i]? = some old ∧ (new = old ∨ Goes l i e old new)) ∨
      (∃ request, new = ⟨[.pending], .begun request⟩) ∨ ∃ error, new = ⟨[], .done (.error error)⟩ := by
  cases hold : l.imports[i]? with
  | some old =>
    obtain ⟨new', hnew', step⟩ := h.import_after hold
    rw [hi] at hnew'
    cases hnew'
    exact .inl ⟨old, rfl, step⟩
  | none =>
    cases h with
    | still _ _ imports => simp [imports, hold] at hi
    | called _ _ imports => simp [imports, hold] at hi
    | came _ request imports =>
      rw [imports] at hi
      rcases Flights.getElem?_append_singleton hi with hsame | ⟨-, rfl⟩
      · simp [hold] at hsame
      · exact .inr (.inl ⟨request, rfl⟩)
    | refused _ error imports =>
      rw [imports] at hi
      rcases Flights.getElem?_append_singleton hi with hsame | ⟨-, rfl⟩
      · simp [hold] at hsame
      · exact .inr (.inr ⟨error, rfl⟩)
    | went before goes imports =>
      rw [imports, getElem?_set_of_some before] at hi
      split at hi
      next hk =>
        rw [hk, before] at hold
        cases hold
      next => simp [hold] at hi

end Loader

end TypedImport
