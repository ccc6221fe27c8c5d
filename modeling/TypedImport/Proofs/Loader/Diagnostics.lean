import TypedImport.Proofs.Loader.Progress
import TypedImport.Proofs.Loader.Requests

/-!
# What the error of an import tells

An import fails while its handler is resolved or its asset is loaded, or it is told an error by the cache.
Either way the error is about this import: it names the URL and the type of its request, and the handler if
one was resolved for it (`diagnosed_run`).

**Errors of others.** The error of a computation is told to every import that waits for it, and it names the
key of the computation. That is the key of each of these imports, so none of them is told of another asset,
type or handler. `FailedBy` keeps the sources of errors apart, with what each of them takes.
-/

namespace TypedImport

/-- **An error that an import may end in before it asks the cache**: its handler is not resolved, or its
asset does not load; this is told with the handler if there is one by then. -/
inductive ImportError.Unasked (request : ImportRequest) (resolved : Descriptor → Prop) : ImportError → Prop
  | resolution {handler : Option HandlerId} {reason : ResolutionFault} (none : ∀ d, ¬ resolved d) :
    Unasked request resolved (.handlerResolution request.url.text request.type handler reason)
  | load {early : Option Descriptor} {attempts : UInt32} {failure : FetchFailure}
    (known : ∀ d, resolved d ↔ early = some d) :
    Unasked request resolved
      (.load request.url.text request.type (early.map Descriptor.id) attempts (.fetch failure))

/-- **An error that an import may end in**, by what it takes: one that comes before the question to the
cache, or one that the cache tells it about the key that it has asked for. -/
inductive ImportError.FailedBy (request : ImportRequest) (resolved : Descriptor → Prop)
    (asked : Demand → Prop) : ImportError → Prop
  | unasked {error : ImportError} (early : error.Unasked request resolved) (none : ∀ d, ¬ asked d) :
    FailedBy request resolved asked error
  | broken {own : Demand} {fault : ExecutionFault} (ask : asked own) :
    FailedBy request resolved asked (.handlerExecution own.key.url own.key.type own.key.handler fault)
  | changed {own : Demand} {expected actual : String} (ask : asked own) :
    FailedBy request resolved asked
      (.cacheConsistency own.key.url own.key.type own.key.handler expected actual)

/-- **An error tells of the request of an import**, and of the handler that was resolved for it. -/
structure ImportError.Tells (error : ImportError) (request : ImportRequest) (resolved : Descriptor → Prop) :
    Prop where
  /-- It comes from a phase after the check of the request. -/
  phase : (∃ url type handler reason, error = .handlerResolution url type handler reason) ∨
    (∃ url type handler attempts reason, error = .load url type handler attempts reason) ∨
    (∃ url type handler fault, error = .handlerExecution url type handler fault) ∨
    ∃ url type handler expected actual, error = .cacheConsistency url type handler expected actual
  url : error.url? = some request.url.text
  type : error.type? = some request.type
  handler : ∀ d, resolved d → error.handler? = some d.id

namespace ImportError

variable {request : ImportRequest} {resolved resolved' : Descriptor → Prop} {asked asked' : Demand → Prop}
  {error : ImportError}

theorem Unasked.tells (h : error.Unasked request resolved) : error.Tells request resolved := by
  cases h with
  | resolution none =>
    exact ⟨.inl ⟨_, _, _, _, rfl⟩, rfl, rfl, fun d hd => absurd hd (none d)⟩
  | @load early attempts failure known =>
    refine ⟨.inr (.inl ⟨_, _, _, _, _, rfl⟩), rfl, rfl, fun d hd => ?_⟩
    rw [(known d).mp hd]
    rfl

/-- An error about the key of a demand tells of the request that the demand goes back to. -/
theorem FailedBy.tells (h : error.FailedBy request resolved asked)
    (keys : ∀ own, asked own → own.key = ⟨request.url.text, own.descriptor.id, request.type⟩ ∧
      ∀ d, resolved d → d = own.descriptor) : error.Tells request resolved := by
  cases h with
  | unasked early none => exact early.tells
  | broken ask =>
    obtain ⟨hkey, hresolved⟩ := keys _ ask
    rw [hkey]
    refine ⟨.inr (.inr (.inl ⟨_, _, _, _, rfl⟩)), rfl, rfl, fun d hd => ?_⟩
    rw [hresolved d hd]
    rfl
  | changed ask =>
    obtain ⟨hkey, hresolved⟩ := keys _ ask
    rw [hkey]
    refine ⟨.inr (.inr (.inr ⟨_, _, _, _, _, rfl⟩)), rfl, rfl, fun d hd => ?_⟩
    rw [hresolved d hd]
    rfl

theorem FailedBy.congr (h : error.FailedBy request resolved asked)
    (resolving : ∀ d, resolved' d ↔ resolved d) (asking : ∀ d, asked' d ↔ asked d) : error.FailedBy request resolved' asked' := by
  cases h with
  | broken ask => exact .broken ((asking _).mpr ask)
  | changed ask => exact .changed ((asking _).mpr ask)
  | unasked early none =>
    refine .unasked ?_ fun d hd => none d ((asking d).mp hd)
    cases early with
    | resolution none => exact .resolution fun d hd => none d ((resolving d).mp hd)
    | load known => exact .load fun d => (resolving d).trans (known d)

end ImportError

namespace Resolver

variable {r : Resolver} {reference : AssertedHandler} {url type media : String} {error : ImportError}

/-- An error of resolving a handler. -/
def Misses (url type : String) (error : ImportError) : Prop :=
  ∃ handler reason, error = .handlerResolution url type handler reason

theorem misses_of_resolveDefault (h : (r.resolveDefault url type media).1 = .error error) :
    Misses url type error := by
  unfold resolveDefault at h
  split at h
  next => cases h
  next =>
    cases h
    exact ⟨_, _, rfl⟩

theorem misses_of_resolveModule {path : String} (h : (r.resolveModule path url type).1 = .error error) :
    Misses url type error := by
  unfold resolveModule settleModule at h
  split at h
  next => cases h
  next =>
    dsimp only at h
    split at h
    next => cases h
    next =>
      cases h
      exact ⟨_, _, rfl⟩

/-- **Whatever keeps a handler from being resolved**, the error is about the URL and the type. -/
theorem misses_of_resolve (h : (r.resolve reference url type media).1 = .error error) :
    Misses url type error := by
  have candidate : ∀ e, (r.candidate reference url type media).1 = .error e → Misses url type e := by
    intro e he
    cases reference with
    | inline handler => cases he
    | module path => exact misses_of_resolveModule he
    | absent => exact misses_of_resolveDefault he
  unfold resolve at h
  split at h
  next d r' hr =>
    change accepted url type d = .error error at h
    unfold accepted at h
    split at h
    next => cases h
    next =>
      cases h
      exact ⟨_, _, rfl⟩
  next e r' hr =>
    cases h
    exact candidate _ (congrArg Prod.fst hr)

end Resolver

namespace Flights

variable {s : Flights} {key : CacheKey} {fingerprint : String} {error : ImportError}

/-- **An error that the cache tells a request at once** is about its key. -/
theorem error_of_request (sound : s.Sound) (h : (s.request key fingerprint).1 = .now (.error error)) :
    (∃ expected, error = .cacheConsistency key.url key.type key.handler expected fingerprint) ∨
      ∃ fault, error = .handlerExecution key.url key.type key.handler fault := by
  cases hl : s.cache.lookup key fingerprint with
  | hit made =>
    rw [request_of_hit hl] at h
    cases h
  | conflict expected =>
    rw [request_of_conflict hl] at h
    cases h
    exact .inl ⟨expected, rfl⟩
  | join n =>
    obtain ⟨f, hf, hkey, -, hend⟩ := sound.mark key n fingerprint (Cache.lookup_eq_join_iff.1 hl)
    rcases hend with hu | ⟨⟨message, hb⟩, -⟩
    · rw [request_of_join hl hf hu] at h
      cases h
    · rw [request_of_late_join hl hf hb] at h
      rw [hkey] at h
      cases h
      exact .inr ⟨_, rfl⟩
  | start =>
    rw [request_of_start hl] at h
    cases h

end Flights

namespace Loader

variable {l l' : Loader} {i : Nat} {e : Event} {events : List Event} {request : ImportRequest}
  {known resolved : Descriptor → Prop} {P : ImportError → Prop} {imp : Import} {error : ImportError}

/-! ## Errors before the question -/

/-- After a turn, an import that has ended in an error has ended in one of these. -/
def EndsIn (P : ImportError → Prop) (i : Nat) (turn : Loader × Option Demand) : Prop :=
  ∀ states error, turn.1.imports[i]? = some ⟨states, .done (.error error)⟩ → P error

theorem EndsIn.of_early {turn : Loader × Option Demand} (hi : turn.1.imports[i]? = some imp)
    (early : imp.stage.Early) : EndsIn P i turn := by
  intro states error h
  rw [h] at hi
  cases hi
  exact early.elim

theorem endsIn_set {turn : Loader × Option Demand} {new : Import}
    (himports : turn.1.imports = l.imports.set i new) (h : ∀ states error, new = ⟨states, .done (.error error)⟩ → P error) : EndsIn P i turn := by
  intro states error hi
  rw [himports, List.getElem?_set_self'] at hi
  obtain ⟨old, -, hnew⟩ := Option.map_eq_some_iff.mp hi
  exact h states error hnew

theorem endsIn_fail (l : Loader) (i : Nat) (states : List ImportState) (h : P error) :
    EndsIn P i (l.fail i states error, none) := by
  refine endsIn_set (fail_imports ..) fun states' error' hnew => ?_
  cases hnew
  exact h

theorem endsIn_wait {states : List ImportState} {early : Option Descriptor} {attempt : UInt32}
    {till : Option Nat} :
    EndsIn P i (l.setImport i states (.fetching request early attempt till), none) :=
  endsIn_set (setImport_imports ..) nofun

/-- The error of an import whose asset failed to load tells the handler that was resolved before. -/
theorem unasked_loadError {early : Option Descriptor} (known : ∀ d, resolved d ↔ early = some d)
    (attempts : UInt32) (failure : FetchFailure) :
    (loadError request early attempts failure).Unasked request resolved := by
  cases early with
  | none => exact .load known
  | some d => exact .load known

theorem endsIn_receive (hi : l.imports[i]? = some imp) (isEarly : imp.stage.Early)
    (states : List ImportState) {early : Option Descriptor} {fetched : Fetched}
    (known : ∀ d, resolved d ↔ early = some d ∨ early = none ∧ l.resolver.FindsWith request fetched d) :
    EndsIn (·.Unasked request resolved) i (l.receive i states request early fetched) := by
  unfold receive
  cases early with
  | some d => exact .of_early hi isEarly
  | none =>
    dsimp only
    split
    next => exact .of_early hi isEarly
    next error r hr =>
      have herror := congrArg Prod.fst hr
      obtain ⟨handler, reason, rfl⟩ := Resolver.misses_of_resolve herror
      refine endsIn_fail _ i _ (.resolution fun d hd => ?_)
      rcases (known d).mp hd with hsome | ⟨-, hfound⟩
      · cases hsome
      · have hboth := hfound.symm.trans herror
        cases hboth

theorem endsIn_fetchAsset (hi : l.imports[i]? = some imp) (isEarly : imp.stage.Early)
    (states : List ImportState) {early : Option Descriptor}
    (known : ∀ d, resolved d ↔ early = some d ∨ early = none ∧ l.FindsByFetch request d)
    (attempt : UInt32) :
    EndsIn (·.Unasked request resolved) i (l.fetchAsset i states request early attempt) := by
  unfold fetchAsset
  split
  next => exact endsIn_wait
  next free =>
    have hopen : l.isHeld request.url = false := Bool.eq_false_iff.mpr free
    dsimp only
    split
    next fetched hfetch =>
      refine endsIn_receive (l := { l with feed := (l.feed.fetch request.url).2 }) hi isEarly states
        fun d => ?_
      rw [known d]
      unfold FindsByFetch
      simp [hopen, hfetch]
    next failure hfetch =>
      split
      next => exact endsIn_wait
      next attempts _ =>
        refine endsIn_fail _ i _
          (unasked_loadError (fun d => (known d).trans (or_iff_left ?_)) attempts failure)
        rintro ⟨-, -, fetched, hok, -⟩
        rw [hfetch] at hok
        cases hok

theorem endsIn_resolveHandler {states : List ImportState}
    (begun : l.imports[i]? = some ⟨states, .begun request⟩)
    (finds : ∀ d, resolved d ↔ l.Finds i request d) :
    EndsIn (·.Unasked request resolved) i (l.resolveHandler i states request) := by
  unfold resolveHandler
  dsimp only
  split
  next needed =>
    refine endsIn_fetchAsset
      (l := { l with resolver := (l.resolver.needsMedia request.assertion.handler request.type).2 })
      begun trivial _ (fun d => ?_) 0
    rw [finds d, finds_begun_iff begun, needed]
    simp
  next hneedless =>
    have needless := Bool.eq_false_iff.mpr hneedless
    split
    next d r hr =>
      refine endsIn_fetchAsset (l := { l with resolver := r }) begun trivial _ (fun d' => ?_) 0
      rw [finds d', finds_begun_iff begun, needless, hr]
      simp
    next error r hr =>
      obtain ⟨handler, reason, rfl⟩ := Resolver.misses_of_resolve (congrArg Prod.fst hr)
      refine endsIn_fail _ i _ (.resolution fun d hd => ?_)
      rw [finds d, finds_begun_iff begun, needless, hr] at hd
      simp at hd

/-- **An import that ends in an error before it asks the cache** ends in one of its own. -/
theorem endsIn_approach {ordered : ImportRequest → Prop} {known : ImportRequest → Descriptor → Prop}
    (hi : l.imports[i]? = some imp) (isEarly : imp.stage.Early) (carries : imp.stage.Carries ordered known)
    (unique : ∀ other, ordered other → other = request)
    (grown : ∀ d, resolved d ↔ known request d ∨ l.Finds i request d) :
    EndsIn (·.Unasked request resolved) i (l.approach i) := by
  unfold approach
  split
  next states other hbegun =>
    rw [hi] at hbegun
    cases hbegun
    obtain ⟨horder, unknown⟩ := carries
    obtain rfl := unique other horder
    exact endsIn_resolveHandler hi fun d => (grown d).trans (or_iff_right (unknown d))
  next states other early attempt till hfetching =>
    rw [hi] at hfetching
    cases hfetching
    obtain ⟨horder, hknown⟩ := carries
    obtain rfl := unique other horder
    split
    next due =>
      refine endsIn_fetchAsset hi trivial states (fun d => ?_) attempt
      rw [grown d, hknown d, finds_fetching_iff hi]
      simp [due]
    next => exact .of_early hi isEarly
  next => exact .of_early hi isEarly

/-! ## Errors that the cache tells -/

/-- **What an import is told that has waited** is about the key that it has asked for, whoever had the
computation started. -/
theorem error_of_resume (hl : l.Fresh) {own : Demand} {t : Nat} {tk : Ticket}
    (ticket : (l.run events).flights.tickets[t]? = some tk)
    (backs : (l.run events).Backs own tk.flight tk.status)
    (reply : ((l.run events).flights.resume t).1 = some (.error error)) :
    ∃ fault, error = .handlerExecution own.key.url own.key.type own.key.handler fault := by
  unfold Flights.resume at reply
  split at reply
  next => cases reply
  next tk' f ending hs =>
    obtain ⟨ht, -, hf, he⟩ := Flights.sight?_eq_some_iff.mp hs
    rw [ticket] at ht
    cases ht
    obtain ⟨f', hf', hkey, -⟩ := backs.flight
    rw [hf] at hf'
    cases hf'
    obtain ⟨comp, result, hc, hcomp, gives, rfl⟩ := normal_run hl events hf he
    rcases gives with ⟨nth, v, fields, hcall, hv, rfl⟩ | ⟨fault, rfl⟩
    · cases reply
    · cases reply
      -- the descriptor of a computation is the one that its key names
      obtain ⟨j, d, -, hof⟩ := (linked_run hl events).made _ comp hc
      have hid : comp.descriptor.id = comp.key.handler := by rw [hof.descriptor, hof.key, Demand.key]
      refine ⟨fault, ?_⟩
      rw [Invoke.error, hid, hcomp, hkey]

/-! ## Runs -/

variable {states : List ImportState}

/-- For an import that is early no more nothing is resolved, and it asks for nothing. -/
theorem late_concat (hi : (l.run events).imports[i]? = some imp) (late : ¬ imp.stage.Early) (e : Event)
    (request : ImportRequest) :
    (∀ d, Resolved l (events ++ [e]) i request d ↔ Resolved l events i request d) ∧
      ∀ d, Asks l (events ++ [e]) i d ↔ Asks l events i d := by
  constructor
  · intro d
    refine happened_concat.trans (or_iff_left ?_)
    rintro ⟨-, hfinds⟩
    obtain ⟨imp', hi', early⟩ := early_of_finds hfinds
    rw [hi] at hi'
    cases hi'
    exact late early
  · intro d
    refine asks_concat.trans (or_iff_left ?_)
    rintro ⟨-, hasks⟩
    obtain ⟨imp', hi', early⟩ := early_of_approach hasks
    rw [hi] at hi'
    cases hi'
    exact late early

/-- **An early import that ends in an error in its turn** ends in one of its own, or is told one at once. -/
theorem failedBy_of_early (hl : l.Fresh) (order : Ordered l events i request)
    (hi : (l.run events).imports[i]? = some imp) (early : imp.stage.Early)
    (ended : (l.run (events ++ [.pollImport i])).imports[i]? = some ⟨states, .done (.error error)⟩) :
    error.FailedBy request (Resolved l (events ++ [.pollImport i]) i request)
      (Asks l (events ++ [.pollImport i]) i) := by
  have ended' : ((l.run events).pollImport i).imports[i]? = some ⟨states, .done (.error error)⟩ := by
    rw [run_concat] at ended
    exact ended
  cases hd : ((l.run events).approach i).2 with
  | some own =>
    have ask : Asks l (events ++ [.pollImport i]) i own := asks_concat.mpr (.inr ⟨rfl, hd⟩)
    obtain ⟨hflights, himports⟩ := approach_of_asked hd
    have sound : ((l.run events).approach i).1.flights.Sound := hflights ▸ sound_flights hl events
    rw [pollImport_of_asked hd, (serve_eq sound own).1, getElem?_set_of_some (himports ▸ hi),
      if_pos rfl] at ended'
    generalize hreply :
      (((l.run events).approach i).1.flights.request own.key own.asset.fingerprint).1 = reply at ended'
    unfold Demand.outcome at ended'
    split at ended'
    next => cases ended'
    next error' =>
      cases ended'
      rcases Flights.error_of_request sound hreply with ⟨expected, rfl⟩ | ⟨fault, rfl⟩
      · exact .changed ask
      · exact .broken ask
    next => cases ended'
  | none =>
    have silent : ∀ d, ¬ Asks l (events ++ [.pollImport i]) i d := by
      intro d hasks
      rcases asks_concat.mp hasks with hold | ⟨-, hnew⟩
      · exact ((linked_run hl events).backed i imp hi).not_asked early d hold
      · rw [hd] at hnew
        cases hnew
    have grown : ∀ d, Resolved l (events ++ [.pollImport i]) i request d ↔
        Resolved l events i request d ∨ (l.run events).Finds i request d :=
      fun d => happened_concat.trans (or_congr_right (and_iff_right rfl))
    rw [pollImport_of_silent hi early hd] at ended'
    have carries := (traced_run hl events).stages i imp hi
    have ends := endsIn_approach hi early carries (fun other h => ordered_unique h order) grown
    exact .unasked (ends states error ended') silent

theorem early_of_fetchStates? (h : imp.fetchStates? = some states) : imp.stage.Early := by
  obtain ⟨old, stage⟩ := imp
  cases stage with
  | begun | fetching => exact trivial
  | computing | done | dropped => cases h

/-- An import that waits and ends in an error is told that of the computation. -/
theorem failedBy_of_waiting (hl : l.Fresh) (hi : (l.run events).imports[i]? = some imp)
    (late : ¬ imp.stage.Early) (goes : Goes (l.run events) i e imp ⟨states, .done (.error error)⟩) :
    error.FailedBy request (Resolved l (events ++ [e]) i request) (Asks l (events ++ [e]) i) := by
  generalize hnew : (⟨states, .done (.error error)⟩ : Import) = new at goes
  cases goes with
  | unresolved => exact absurd trivial late
  | waits => cases hnew
  | unloaded source => exact absurd (early_of_fetchStates? source) late
  | asked source => exact absurd (early_of_fetchStates? source) late
  | dropped => cases hnew
  | @resumed old ticket result reply =>
    cases hnew
    have backed := (linked_run hl events).backed i _ hi
    cases backed with
    | early early => exact early.elim
    | @waiting own t tk ask ticketed backs =>
      obtain ⟨fault, rfl⟩ := error_of_resume hl ticketed backs reply
      exact .broken (ask.append _)

/-- **An import that was ordered with a request ends in an error in one of these ways only.** -/
theorem failedBy_run (hl : l.Fresh) (events : List Event)
    (ended : (l.run events).imports[i]? = some ⟨states, .done (.error error)⟩)
    (order : Ordered l events i request) :
    error.FailedBy request (Resolved l events i request) (Asks l events i) := by
  induction events using List.reverseRecOn generalizing states with
  | nil => exact (not_happened_nil order).elim
  | append_singleton events e ih =>
    rcases happened_concat.mp order with hold | ⟨horders, rfl⟩
    · have hlt := lt_of_ordered hold
      have hi := List.getElem?_eq_getElem hlt
      obtain ⟨new, hnew, hgoes⟩ := (passage_run hl events e).import_after hi
      rw [run_concat, hnew] at ended
      cases ended
      rcases hgoes with hsame | hgoes
      · rw [← hsame] at hi
        obtain ⟨resolving, asking⟩ := late_concat hi (fun h => h) e request
        exact (ih hi hold).congr resolving asking
      · by_cases early : ((l.run events).imports[i]).stage.Early
        · rcases event_of_goes hgoes with rfl | rfl
          · rw [← run_concat] at hnew
            exact failedBy_of_early hl hold hi early hnew
          · cases hgoes
        · exact failedBy_of_waiting hl hi early hgoes
    · rw [run_concat, after_of_orders horders] at ended
      simp [submit] at ended

/-- The key of a demand is about the request of its import and the handler that was resolved for it. -/
theorem key_of_asks (hl : l.Fresh) (order : Ordered l events i request) {own : Demand}
    (ask : Asks l events i own) :
    own.key = ⟨request.url.text, own.descriptor.id, request.type⟩ ∧
      ∀ d, Resolved l events i request d → d = own.descriptor := by
  obtain ⟨other, fetched, horder, hresolved, hfetches⟩ := (traced_run hl events).demands i own ask
  obtain rfl := ordered_unique horder order
  exact ⟨(isOf_of_fetches hfetches).key, fun d => (hresolved d).mp⟩

/-- **The errors of a run tell what they are about**: an import with a request that has ended in an error
has ended in one that tells of its request, and of the handler that was resolved for it. -/
def Diagnosed (l : Loader) (events : List Event) : Prop :=
  ∀ (i : Nat) states error request, (l.run events).imports[i]? = some ⟨states, .done (.error error)⟩ →
    Ordered l events i request → error.Tells request (Resolved l events i request)

/-- **The errors of every run tell what they are about.** -/
theorem diagnosed_run (config : Config) (base : Option Url) (registry : Registry) (native : NativeMemo)
    (modules : ModuleTable) (feed : Feed) (events : List Event) :
    Diagnosed (build config base registry native modules feed) events := by
  intro i states error request ended order
  have failed := failedBy_run (fresh_build ..) events ended order
  exact failed.tells fun own ask => key_of_asks (fresh_build ..) order ask

end Loader

end TypedImport
