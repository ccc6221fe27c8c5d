import TypedImport.Proofs.Handler.Definitions
import TypedImport.Proofs.Handler.Resolution
import TypedImport.Proofs.Loader.Choices

/-!
# Where the handlers of a run come from

The handlers that a run may use are those in its registry and of its host when it begins, and those that
come in with its events (`Given`). Modules bring others, which are known by their paths. `Sourced` says of
a run that each demand is vouched for in this sense, and that it tells the media type, the native flag and
the fingerprint of its asset as the loader has them.
-/

namespace TypedImport

/-- The handler that a request gives with it is a known one. -/
def ImportRequest.Inline (known : Handler → Prop) (request : ImportRequest) : Prop :=
  ∀ handler, request.assertion.handler = .inline handler → known handler

/-- The handler of an import at a stage is a known one, or vouched for if it is resolved. -/
def Import.Stage.Sourced (known : Handler → Prop) (r : Resolver) : Import.Stage → Prop
  | .begun request => request.Inline known
  | .fetching request early _ _ => request.Inline known ∧ ∀ d, early = some d → r.Vouches known d
  | _ => True

/-- **A demand is as the resolver has it**: its handler is vouched for, its native flag is the answer that
is remembered, and its fingerprint is that of its bytes. -/
structure Demand.Sourced (known : Handler → Prop) (r : Resolver) (d : Demand) : Prop where
  handler : r.Vouches known d.descriptor
  native : r.native.available.get? (d.type, Text.lower d.asset.media) = some d.asset.nativeAvailable
  content : d.asset.fingerprint = fingerprint d.asset.bytes

theorem Import.Stage.Sourced.later {known known' : Handler → Prop} {r r' : Resolver}
    {stage : Import.Stage} (h : stage.Sourced known r) (hr : r.Remembers r')
    (more : ∀ h, known h → known' h) : stage.Sourced known' r' := by
  cases stage with
  | begun request => exact fun handler hh => more _ (h handler hh)
  | fetching request early attempt till =>
    exact ⟨fun handler hh => more _ (h.1 handler hh), fun d hd => (h.2 d hd).later hr more⟩
  | computing t => trivial
  | done result => trivial
  | dropped => trivial

theorem Import.Stage.Sourced.of_not_early {known : Handler → Prop} {r : Resolver}
    {stage : Import.Stage} (late : ¬ stage.Early) : stage.Sourced known r := by
  cases stage with
  | begun request => exact absurd trivial late
  | fetching request early attempt till => exact absurd trivial late
  | computing t => trivial
  | done result => trivial
  | dropped => trivial

theorem Demand.Sourced.later {known known' : Handler → Prop} {r r' : Resolver} {d : Demand}
    (h : d.Sourced known r) (hr : r.Remembers r') (more : ∀ h, known h → known' h) :
    d.Sourced known' r' :=
  ⟨h.handler.later hr more, hr.available _ _ h.native, h.content⟩

theorem Asset.ofFetched_spec (native : NativeMemo) (url : Url) (type : String)
    (requested : Option String) (fetched : Fetched) :
    (ofFetched native url type requested fetched).2 =
        (native.supports type (ofFetched native url type requested fetched).1.media).2 ∧
      (ofFetched native url type requested fetched).1.nativeAvailable =
        (native.supports type (ofFetched native url type requested fetched).1.media).1 ∧
      (ofFetched native url type requested fetched).1.fingerprint =
        TypedImport.fingerprint (ofFetched native url type requested fetched).1.bytes :=
  ⟨rfl, rfl, rfl⟩

namespace Loader

variable {known : Handler → Prop} {l l' : Loader} {i : Nat} {e : Event} {events : List Event}

/-! ## Turns of imports -/

/-- **What a turn up to the question to the cache keeps** of where handlers come from. -/
structure Guided (known : Handler → Prop) (l : Loader) (i : Nat) (turn : Loader × Option Demand) :
    Prop where
  remembers : l.resolver.Remembers turn.1.resolver
  keeps : turn.1.resolver.Known known
  stage : turn.1.imports = l.imports ∨ ∃ states stage,
    turn.1.imports = l.imports.set i ⟨states, stage⟩ ∧ stage.Sourced known turn.1.resolver
  asked : ∀ d, turn.2 = some d → d.Sourced known turn.1.resolver

theorem Guided.of {turn : Loader × Option Demand} (h : Guided known l' i turn)
    (hr : l.resolver.Remembers l'.resolver) (hi : l'.imports = l.imports) : Guided known l i turn where
  remembers := hr.trans h.remembers
  keeps := h.keeps
  stage := hi ▸ h.stage
  asked := h.asked

theorem Guided.fail (h : l.resolver.Known known) (i : Nat) (states : List ImportState)
    (e : ImportError) : Guided known l i (l.fail i states e, none) where
  remembers := .refl _
  keeps := h
  stage := .inr ⟨_, _, fail_imports .., trivial⟩
  asked d hd := by cases hd

theorem Guided.wait (h : l.resolver.Known known) (i : Nat) (states : List ImportState)
    {request : ImportRequest} {early : Option Descriptor} (inline : request.Inline known)
    (vouched : ∀ d, early = some d → l.resolver.Vouches known d) (attempt : UInt32)
    (till : Option Nat) :
    Guided known l i (l.setImport i states (.fetching request early attempt till), none) where
  remembers := .refl _
  keeps := h
  stage := .inr ⟨_, _, setImport_imports .., inline, vouched⟩
  asked d hd := by cases hd

theorem guided_receive (h : l.resolver.Known known) (states : List ImportState)
    {request : ImportRequest} {early : Option Descriptor} (inline : request.Inline known)
    (vouched : ∀ d, early = some d → l.resolver.Vouches known d) (fetched : Fetched) :
    Guided known l i (l.receive i states request early fetched) := by
  obtain ⟨hnative, hflag, hcontent⟩ := Asset.ofFetched_spec l.resolver.native request.url request.type
    request.assertion.encoding fetched
  unfold receive
  dsimp only
  generalize Asset.ofFetched l.resolver.native request.url request.type request.assertion.encoding
    fetched = out at hnative hflag hcontent ⊢
  obtain ⟨asset, native⟩ := out
  dsimp only at hnative hflag hcontent ⊢
  subst hnative
  have asked := Resolver.resolution_of_proceeds h
    (Resolver.proceeds_supports l.resolver request.type asset.media)
  have answer : (l.resolver.native.supports request.type asset.media).2.available.get?
      (request.type, Text.lower asset.media) = some asset.nativeAvailable := by
    rw [hflag]
    exact NativeMemo.get?_available_supports ..
  cases early with
  | some d =>
    refine ⟨asked.remembers, asked.keeps, .inl rfl, fun d' hd' => ?_⟩
    cases hd'
    exact ⟨(vouched d rfl).later asked.remembers fun _ hk => hk, answer, hcontent⟩
  | none =>
    have resolved := Resolver.resolution_resolve asked.keeps inline request.url.text request.type
      asset.media
    dsimp only
    split
    next d r hr =>
      rw [hr] at resolved
      refine ⟨asked.remembers.trans resolved.remembers, resolved.keeps, .inl rfl, fun d' hd' => ?_⟩
      cases hd'
      exact ⟨resolved.vouched d rfl, resolved.remembers.available _ _ answer, hcontent⟩
    next e r hr =>
      rw [hr] at resolved
      exact (Guided.fail resolved.keeps ..).of (asked.remembers.trans resolved.remembers) rfl

theorem guided_fetchAsset (h : l.resolver.Known known) (states : List ImportState)
    {request : ImportRequest} {early : Option Descriptor} (inline : request.Inline known)
    (vouched : ∀ d, early = some d → l.resolver.Vouches known d) (attempt : UInt32) :
    Guided known l i (l.fetchAsset i states request early attempt) := by
  unfold fetchAsset
  split
  · exact .wait h i states inline vouched attempt none
  · dsimp only
    -- the loader has gone on to another feed, which its resolver knows nothing of
    generalize hfed : { l with feed := (l.feed.fetch request.url).2 } = fed
    have hresolver : fed.resolver = l.resolver := by rw [← hfed]
    have himports : fed.imports = l.imports := by rw [← hfed]
    have hremembers : l.resolver.Remembers fed.resolver := hresolver ▸ .refl _
    rw [← hresolver] at h vouched
    split
    · exact (guided_receive h states inline vouched _).of hremembers himports
    · split
      · exact (Guided.wait h i states inline vouched _ _).of hremembers himports
      · exact (Guided.fail h ..).of hremembers himports

theorem guided_resolveHandler (h : l.resolver.Known known) (states : List ImportState)
    {request : ImportRequest} (inline : request.Inline known) :
    Guided known l i (l.resolveHandler i states request) := by
  have needed := Resolver.resolution_of_proceeds h
    (Resolver.proceeds_needsMedia l.resolver request.assertion.handler request.type)
  unfold resolveHandler
  dsimp only
  split
  · exact (guided_fetchAsset needed.keeps _ inline (fun d hd => by cases hd) 0).of needed.remembers rfl
  · have resolved := Resolver.resolution_resolve needed.keeps inline request.url.text request.type
      (Media.ofExtension request.url)
    split
    next d r hr =>
      rw [hr] at resolved
      refine (guided_fetchAsset resolved.keeps _ inline (fun d' hd' => ?_) 0).of
        (needed.remembers.trans resolved.remembers) rfl
      cases hd'
      exact resolved.vouched d rfl
    next e r hr =>
      rw [hr] at resolved
      exact (Guided.fail resolved.keeps ..).of (needed.remembers.trans resolved.remembers) rfl

theorem guided_approach (h : l.resolver.Known known)
    (stages : ∀ imp, l.imports[i]? = some imp → imp.stage.Sourced known l.resolver) :
    Guided known l i (l.approach i) := by
  have still : Guided known l i (l, none) := ⟨.refl _, h, .inl rfl, fun d hd => by cases hd⟩
  unfold approach
  split
  next states request hi => exact guided_resolveHandler h states (stages _ hi)
  next states request early attempt till hi =>
    split
    · exact guided_fetchAsset h states (stages _ hi).1 (stages _ hi).2 attempt
    · exact still
  next => exact still

/-! ## Events -/

/-- **An event brings a handler into the program.** -/
def Event.Brings : Event → Handler → Prop
  | .startImport _ _ a _, handler => a.handler = .inline handler
  | .submit request, handler => request.assertion.handler = .inline handler
  | .define _ defined, handler => defined = handler
  | .changeHost host, handler => ∃ t, host.handlerFor t = some handler
  | .registerModule _ result, handler => ∃ m, result = .ok m ∧ m.Offers handler
  | _, _ => False

/-- **The handlers that a run is given**: those in the registry, of the host and in the modules of the
loader that it begins with, and those that its events bring. -/
inductive Given (l : Loader) (events : List Event) (handler : Handler) : Prop where
  | registry {t : String} {d : Descriptor} (default : l.resolver.registry.forType? t = some d)
      (same : d.handler = handler)
  | host {t : String} (offered : l.resolver.native.host.handlerFor t = some handler)
  | module {path : String} {m : HandlerModule}
      (registered : l.resolver.modules.modules.get? path = some (.ok m)) (offers : m.Offers handler)
  | event {e : Event} (happens : e ∈ events) (brings : e.Brings handler)

theorem Given.append {handler : Handler} (h : Given l events handler) (later : List Event) :
    Given l (events ++ later) handler := by
  cases h with
  | registry default same => exact .registry default same
  | host offered => exact .host offered
  | module registered offers => exact .module registered offers
  | event happens brings => exact .event (List.mem_append_left _ happens) brings

/-- **What an event keeps** of where handlers come from. -/
structure Supplied (known : Handler → Prop) (l l' : Loader) : Prop where
  remembers : l.resolver.Remembers l'.resolver
  keeps : l'.resolver.Known known
  stages : ∀ (i : Nat) (imp : Import), l'.imports[i]? = some imp →
    l.imports[i]? = some imp ∨ imp.stage.Sourced known l'.resolver

theorem Supplied.of_eq (h : l.resolver.Known known) (hr : l'.resolver = l.resolver)
    (hi : l'.imports = l.imports) : Supplied known l l' where
  remembers := hr ▸ .refl _
  keeps := hr ▸ h
  stages _ _ himp := .inl (hi ▸ himp)

theorem Supplied.of_append (h : l.resolver.Known known) (hr : l'.resolver = l.resolver) {new : Import}
    (hi : l'.imports = l.imports ++ [new]) (sourced : new.stage.Sourced known l'.resolver) :
    Supplied known l l' where
  remembers := hr ▸ .refl _
  keeps := hr ▸ h
  stages i imp himp := by
    rw [hi] at himp
    rcases Flights.getElem?_append_singleton himp with hold | ⟨-, rfl⟩
    · exact .inl hold
    · exact .inr sourced

theorem Supplied.of_set (hr : l.resolver.Remembers l'.resolver) (hk : l'.resolver.Known known)
    {new : Import} (hi : l'.imports = l.imports.set i new)
    (sourced : new.stage.Sourced known l'.resolver) : Supplied known l l' where
  remembers := hr
  keeps := hk
  stages j imp himp := by
    rw [hi, List.getElem?_set] at himp
    split at himp
    · split at himp
      · cases himp
        exact .inr sourced
      · cases himp
    · exact .inl himp

theorem supplied_startImport (h : l.resolver.Known known) (specifier : String)
    (referrer : Option Url) {a : Assertion} (inline : ∀ handler, a.handler = .inline handler → known handler)
    (bindings : Bindings) : Supplied known l (l.startImport specifier referrer a bindings) := by
  rcases startImport_cases l specifier referrer a bindings with ⟨error, heq, -⟩ | ⟨request, ordered, heq⟩
  · rw [heq]
    exact .of_append h rfl rfl trivial
  · rw [heq]
    refine .of_append h rfl rfl fun handler hh => inline handler ?_
    cases ordered with
    | named resolved checked => rw [← ImportRequest.handler_of_make checked, hh]

theorem supplied_pollImport (h : l.resolver.Known known)
    (stages : ∀ imp, l.imports[i]? = some imp → imp.stage.Sourced known l.resolver) :
    Supplied known l (l.pollImport i) := by
  unfold pollImport
  split
  next old ticket hi =>
    split
    next result flights _ =>
      cases result with
      | ok served => exact .of_set (.refl _) h rfl trivial
      | error e => exact .of_set (.refl _) h rfl trivial
    next => exact .of_eq h rfl rfl
  next =>
    have guided := guided_approach h stages
    split
    next l₀ d hr =>
      rw [hr] at guided
      have hsame : l₀.imports = l.imports := by
        rcases approached_or_eq l i with heq | ⟨-, -, -, ha⟩
        · rw [hr] at heq
          cases heq
        · rw [hr] at ha
          exact ha.asked d rfl
      obtain ⟨states, stage, himports, hlate⟩ := serve_imports l₀ i d
      rw [hsame] at himports
      refine .of_set ?_ ?_ himports (.of_not_early hlate)
      · rw [serve_resolver]
        exact guided.remembers
      · rw [serve_resolver]
        exact guided.keeps
    next l₀ hr =>
      rw [hr] at guided
      rcases guided.stage with hsame | ⟨states, stage, himports, hsourced⟩
      · exact ⟨guided.remembers, guided.keeps, fun j imp hj => .inl (hsame ▸ hj)⟩
      · exact .of_set guided.remembers guided.keeps himports hsourced

theorem supplied_dropImport (h : l.resolver.Known known) (i : Nat) :
    Supplied known l (l.dropImport i) := by
  unfold dropImport
  split
  · exact .of_eq h rfl rfl
  · exact .of_set (.refl _) h rfl trivial
  · exact .of_set (.refl _) h rfl trivial
  · exact .of_eq h rfl rfl

theorem known_define {r : Resolver} (h : r.Known known) (types : List String) {handler : Handler}
    (hk : known handler) : (r.define types handler).2.Known known := by
  unfold Resolver.define
  split
  next defined registry hdefine =>
    refine ⟨fun t d hd => ?_, h.host, h.modules, h.memo⟩
    rcases Registry.forType?_of_define hdefine hd with ⟨-, rfl⟩ | hold
    · exact hk
    · exact h.registry t d hold
  next => exact h

/-- **The handlers that a resolver has after an event** were there before, or the event brings them. -/
theorem known_of_moves {r r' : Resolver} (h : r.Known known) (moves : Moves r e r')
    (brings : ∀ handler, e.Brings handler → known handler) : r'.Known known := by
  cases moves with
  | proceeds proceeds => exact h.proceeds proceeds
  | define types handler => exact known_define h types (brings handler rfl)
  | registerModule path result =>
    refine ⟨h.registry, h.host, fun other m handler hm ho => ?_, h.memo⟩
    change (r.modules.modules.put path result).get? other = some (.ok m) at hm
    rw [Table.get?_put] at hm
    split at hm
    · exact brings handler ⟨m, Option.some.inj hm, ho⟩
    · exact h.modules other m handler hm ho
  | changeHost host => exact ⟨h.registry, fun t handler hh => brings handler ⟨t, hh⟩, h.modules, h.memo⟩

theorem supplied_after (h : l.resolver.Known known)
    (stages : ∀ (i : Nat) (imp : Import), l.imports[i]? = some imp →
      imp.stage.Sourced known l.resolver)
    (brings : ∀ handler, e.Brings handler → known handler) : Supplied known l (l.after e) := by
  have moves := moves_after l e
  -- all but the turns of imports leave the imports alone, or add one to them
  have same : (l.after e).imports = l.imports → Supplied known l (l.after e) := fun himports =>
    ⟨moves.remembers, known_of_moves h moves brings, fun i imp hi => .inl (himports ▸ hi)⟩
  cases e with
  | startImport specifier referrer a bindings =>
    exact supplied_startImport h specifier referrer brings bindings
  | submit request => exact .of_append h rfl rfl brings
  | pollImport i => exact supplied_pollImport h (stages i)
  | pollComputation c => exact same (pollComputation_resolver l c).2
  | pollHandler c =>
    apply same
    show (l.pollHandler c).imports = l.imports
    unfold pollHandler
    split
    · split <;> rfl
    · rfl
  | dropImport i => exact supplied_dropImport h i
  | define | registerModule | clear | invalidate | changeFeed | changeHost | openGate | pass =>
    exact same rfl

/-! ## Runs -/

/-- **Where the handlers of a run come from.** -/
structure Sourced (l : Loader) (events : List Event) : Prop where
  known : (l.run events).resolver.Known (Given l events)
  stages : ∀ (i : Nat) (imp : Import), (l.run events).imports[i]? = some imp →
    imp.stage.Sourced (Given l events) (l.run events).resolver
  demands : ∀ (i : Nat) (d : Demand), Asks l events i d →
    d.Sourced (Given l events) (l.run events).resolver

theorem Sourced.fresh (hl : l.Fresh) : Sourced l [] where
  known := by
    refine ⟨fun t d hd => .registry hd rfl, fun t _ hh => .host hh, fun path m h => .module,
      fun path d hd => ?_⟩
    rw [show (l.run []).resolver.memo = [] from hl.memo] at hd
    cases hd
  stages i imp hi := by
    rw [show l.run [] = l from rfl, hl.imports] at hi
    cases hi
  demands i d h := (not_happened_nil h).elim

theorem Sourced.concat (h : Sourced l events) (e : Event) : Sourced l (events ++ [e]) := by
  have more : ∀ handler, Given l events handler → Given l (events ++ [e]) handler :=
    fun handler hg => hg.append [e]
  have known : (l.run events).resolver.Known (Given l (events ++ [e])) := h.known.mono more
  have stages : ∀ (i : Nat) (imp : Import), (l.run events).imports[i]? = some imp →
      imp.stage.Sourced (Given l (events ++ [e])) (l.run events).resolver :=
    fun i imp hi => (h.stages i imp hi).later (.refl _) more
  have supplied := supplied_after known stages (e := e) fun handler hb =>
    .event (List.mem_append_right _ (List.mem_singleton_self e)) hb
  refine ⟨?_, ?_, ?_⟩
  · rw [run_concat]
    exact supplied.keeps
  · intro i imp hi
    rw [run_concat] at hi ⊢
    rcases supplied.stages i imp hi with hold | hnew
    · exact (stages i imp hold).later supplied.remembers fun _ hk => hk
    · exact hnew
  · intro i d hd
    rw [run_concat]
    rcases asks_concat.1 hd with hold | ⟨rfl, hnew⟩
    · exact (h.demands i d hold).later supplied.remembers more
    · -- what the demand was vouched for with in the turn is still remembered after it
      have guided := guided_approach known (stages i)
      have hafter : ((l.run events).after (.pollImport i)).resolver =
          ((l.run events).approach i).1.resolver := resolver_pollImport ..
      rw [hafter]
      exact guided.asked d hnew

/-- **The demands of every run are vouched for.** -/
theorem sourced_run (hl : l.Fresh) (events : List Event) : Sourced l events := by
  induction events using List.reverseRecOn with
  | nil => exact .fresh hl
  | append_singleton events e ih => exact ih.concat e

end Loader

end TypedImport
