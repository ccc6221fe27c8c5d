import TypedImport.Proofs.Handler.Origins
import TypedImport.Proofs.Loader.Early

/-!
# The native flag and the choice of a handler

An asset tells whether the host has a handler for it: the flag is set when the asset is loaded, for the
media type that came with it. An import that names no handler comes to one of the host just where the
policy lets the host come in, that flag is set, and the host has a handler for the type
(`NativesAgree.native_iff`).

**Two times.** The flag is set in the turn that loads the asset (`Loads`). The handler is chosen in the
same turn and for the same media type, or before, for the media type that the extension stands for
(`Settled`). In the first case the host's remembered answer is asked for twice; in the second no handler
of the host can be chosen, nor could one be with the media type that came.
-/

namespace TypedImport

namespace Loader

variable {l : Loader} {e : Event} {events : List Event} {i : Nat} {request : ImportRequest}
  {early : Option Descriptor} {asset : Asset} {d : Descriptor} {r : Resolver} {media : String} {own : Demand}
  {comp : Computation}

/-! ## Loading an asset -/

/-- **A fetch brings an asset** for a request, and the resolver has been asked about it. -/
structure Brings (l : Loader) (request : ImportRequest) (fetched : Fetched) (asset : Asset) (r : Resolver) :
    Prop where
  free : l.isHeld request.url = false
  fetch : (l.feed.fetch request.url).1 = .ok fetched
  asset : asset = (Asset.ofFetched l.resolver.native request.url request.type request.assertion.encoding
    fetched).1
  resolver : r = l.resolver.asked request fetched

/-- **In its next turn import `i` loads an asset**; `early` is what its handler has been resolved to by
then, and the resolver `r` has just been asked about the asset. -/
inductive Loads (l : Loader) (i : Nat) (request : ImportRequest) :
    Option Descriptor → Asset → Resolver → Prop where
  /-- In the first turn, which resolves the handler early. -/
  | atOnce {states : List ImportState} {d : Descriptor} {r₀ r : Resolver} {fetched : Fetched} {asset : Asset}
      (begun : l.imports[i]? = some ⟨states, .begun request⟩)
      (needless : (l.resolver.needsMedia request.assertion.handler request.type).1 = false)
      (found : (l.resolver.needsMedia request.assertion.handler request.type).2.resolve
        request.assertion.handler request.url.text request.type (Media.ofExtension request.url) = (.ok d, r₀))
      (brings : { l with resolver := r₀ }.Brings request fetched asset r) :
      Loads l i request (some d) asset r
  /-- In the first turn, with the choice still to be made. -/
  | unresolved {states : List ImportState} {r : Resolver} {fetched : Fetched} {asset : Asset}
      (begun : l.imports[i]? = some ⟨states, .begun request⟩)
      (needed : (l.resolver.needsMedia request.assertion.handler request.type).1 = true)
      (brings : { l with resolver := (l.resolver.needsMedia request.assertion.handler request.type).2 }.Brings
        request fetched asset r) : Loads l i request none asset r
  /-- In a later turn. -/
  | waited {states : List ImportState} {early : Option Descriptor} {attempt : UInt32} {till : Option Nat}
      {r : Resolver} {fetched : Fetched} {asset : Asset}
      (fetching : l.imports[i]? = some ⟨states, .fetching request early attempt till⟩)
      (due : l.isPast till = true) (brings : l.Brings request fetched asset r) :
      Loads l i request early asset r

/-- **What an import with an asset has for a handler**: the one that was resolved before, or else what
the resolver has for the asset's media type. -/
def Supplies (r : Resolver) (request : ImportRequest) (early : Option Descriptor) (asset : Asset)
    (d : Descriptor) : Prop :=
  early = some d ∨ early = none ∧
    (r.resolve request.assertion.handler request.url.text request.type asset.media).1 = .ok d

theorem Brings.proceeds {fetched : Fetched} (h : l.Brings request fetched asset r) :
    l.resolver.Proceeds r := by
  rw [h.resolver]
  exact Resolver.proceeds_supports ..

/-- The flag of an asset is what the host answers from then on. -/
theorem Brings.flag {fetched : Fetched} (h : l.Brings request fetched asset r) :
    (r.native.supports request.type asset.media).1 = asset.nativeAvailable := by
  obtain ⟨-, -, rfl, rfl⟩ := h
  exact NativeMemo.supports_again ..

theorem fetchAsset_of_brings {fetched : Fetched} (h : l.Brings request fetched asset r)
    (supplies : Supplies r request early asset d) (states : List ImportState) (attempt : UInt32) :
    (l.fetchAsset i states request early attempt).2 = some ⟨states, d, asset, request.type⟩ := by
  obtain ⟨free, fetch, rfl, rfl⟩ := h
  unfold fetchAsset
  rw [free, if_neg (by decide)]
  dsimp only
  rw [fetch]
  unfold receive
  rcases supplies with rfl | ⟨rfl, found⟩
  · rfl
  · dsimp only
    split
    next d' r' hr =>
      have same : d' = d := Except.ok.inj ((congrArg Prod.fst hr).symm.trans found)
      rw [same]
    next error r' hr => cases (congrArg Prod.fst hr).symm.trans found

theorem fetchAsset_of_brings_error {fetched : Fetched} {error : ImportError}
    (h : l.Brings request fetched asset r)
    (failed :
      (r.resolve request.assertion.handler request.url.text request.type asset.media).1 = .error error)
    (states : List ImportState) (attempt : UInt32) :
    (l.fetchAsset i states request none attempt).2 = none ∧
      (l.fetchAsset i states request none attempt).1.imports =
        l.imports.set i ⟨states ++ [.failed], .done (.error error)⟩ := by
  obtain ⟨free, fetch, rfl, rfl⟩ := h
  unfold fetchAsset
  rw [free, if_neg (by decide)]
  dsimp only
  rw [fetch]
  unfold receive
  dsimp only
  split
  next d r' hr => cases (congrArg Prod.fst hr).symm.trans failed
  next error' r' hr =>
    have same : error' = error := Except.error.inj ((congrArg Prod.fst hr).symm.trans failed)
    rw [same]
    exact ⟨rfl, rfl⟩

/-- An import that asks after a fetch has loaded the asset that it asks with. -/
theorem brings_of_fetchAsset {states : List ImportState} {attempt : UInt32}
    (h : (l.fetchAsset i states request early attempt).2 = some own) :
    ∃ fetched r, l.Brings request fetched own.asset r ∧
      Supplies r request early own.asset own.descriptor ∧ own.type = request.type := by
  unfold fetchAsset at h
  split at h
  · cases h
  next free =>
    dsimp only at h
    split at h
    next fetched fetch =>
      have brings : ∀ {asset}, asset = _ →
          l.Brings request fetched asset (l.resolver.asked request fetched) :=
        fun hasset => ⟨Bool.eq_false_iff.2 free, fetch, hasset, rfl⟩
      unfold receive at h
      cases early with
      | some d =>
        cases h
        exact ⟨fetched, _, brings rfl, .inl rfl, rfl⟩
      | none =>
        dsimp only at h
        split at h
        next d r' hr =>
          cases h
          exact ⟨fetched, _, brings rfl, .inr ⟨rfl, congrArg Prod.fst hr⟩, rfl⟩
        next => cases h
    next => split at h <;> cases h

/-- A turn that loads an asset is that of a fetch. -/
theorem approach_of_loads (h : l.Loads i request early asset r) :
    ∃ l₀ fetched states attempt, l.approach i = fetchAsset l₀ i states request early attempt ∧
      l₀.Brings request fetched asset r ∧ l₀.imports = l.imports := by
  cases h with
  | @atOnce states d r₀ _ fetched _ begun needless found brings =>
    refine ⟨_, fetched, states ++ [ImportState.resolvingHandler] ++ [ImportState.loadingSource], 0, ?_,
      brings, rfl⟩
    unfold approach
    rw [begun]
    dsimp only
    unfold resolveHandler
    dsimp only
    rw [needless, if_neg (by decide), found]
  | @unresolved states _ fetched _ begun needed brings =>
    refine ⟨_, fetched, states ++ [ImportState.resolvingHandler] ++ [ImportState.loadingSource], 0, ?_,
      brings, rfl⟩
    unfold approach
    rw [begun]
    dsimp only
    unfold resolveHandler
    dsimp only
    rw [needed, if_pos rfl]
  | @waited states _ attempt till _ fetched _ fetching due brings =>
    refine ⟨l, fetched, states, attempt, ?_, brings, rfl⟩
    unfold approach
    rw [fetching]
    dsimp only
    rw [due, if_pos rfl]

/-- **An import that asks the cache has loaded the asset that it asks with**, and asks for the handler
that it has for the asset. -/
theorem loads_of_asked (h : (l.approach i).2 = some own) :
    ∃ request early r, l.Loads i request early own.asset r ∧
      Supplies r request early own.asset own.descriptor ∧ own.type = request.type := by
  unfold approach at h
  split at h
  next states request begun =>
    unfold resolveHandler at h
    dsimp only at h
    split at h
    next needed =>
      obtain ⟨fetched, r, brings, supplies, htype⟩ := brings_of_fetchAsset h
      exact ⟨request, none, r, .unresolved begun needed brings, supplies, htype⟩
    next needless =>
      split at h
      next d r₀ found =>
        obtain ⟨fetched, r, brings, supplies, htype⟩ := brings_of_fetchAsset h
        exact ⟨request, some d, r, .atOnce begun (Bool.eq_false_iff.2 needless) found brings, supplies, htype⟩
      next => cases h
  next states request early attempt till fetching =>
    split at h
    next due =>
      obtain ⟨fetched, r, brings, supplies, htype⟩ := brings_of_fetchAsset h
      exact ⟨request, early, r, .waited fetching due brings, supplies, htype⟩
    next => cases h
  next => cases h

theorem asked_of_loads (h : l.Loads i request early asset r) (supplies : Supplies r request early asset d) :
    ∃ states, (l.approach i).2 = some ⟨states, d, asset, request.type⟩ := by
  obtain ⟨l₀, fetched, states, attempt, heq, brings, -⟩ := approach_of_loads h
  exact ⟨states, by rw [heq, fetchAsset_of_brings brings supplies]⟩

theorem Loads.proceeds (h : l.Loads i request early asset r) : l.resolver.Proceeds r := by
  have asked := Resolver.proceeds_needsMedia l.resolver request.assertion.handler request.type
  cases h with
  | atOnce begun needless found brings =>
    have resolved := (Resolver.comes_resolve
      (l.resolver.needsMedia request.assertion.handler request.type).2 request.assertion.handler
      request.url.text request.type (Media.ofExtension request.url)).proceeds
    rw [found] at resolved
    exact (asked.trans resolved).trans brings.proceeds
  | unresolved begun needed brings => exact asked.trans brings.proceeds
  | waited fetching due brings => exact brings.proceeds

theorem Loads.flag (h : l.Loads i request early asset r) :
    (r.native.supports request.type asset.media).1 = asset.nativeAvailable := by
  obtain ⟨l₀, fetched, states, attempt, -, brings, -⟩ := approach_of_loads h
  exact brings.flag

theorem early_of_loads (h : l.Loads i request early asset r) :
    ∃ imp, l.imports[i]? = some imp ∧ imp.stage.Early := by
  cases h with
  | atOnce begun => exact ⟨_, begun, trivial⟩
  | unresolved begun => exact ⟨_, begun, trivial⟩
  | waited fetching => exact ⟨_, fetching, trivial⟩

/-- An import for whose asset no handler is resolved ends in that turn. -/
theorem after_of_loads_error {error : ImportError} (h : l.Loads i request none asset r)
    (failed :
      (r.resolve request.assertion.handler request.url.text request.type asset.media).1 = .error error) :
    ∃ states, (l.after (.pollImport i)).imports[i]? = some ⟨states, .done (.error error)⟩ := by
  obtain ⟨imp, hi, hearly⟩ := early_of_loads h
  obtain ⟨l₀, fetched, states, attempt, heq, brings, himports⟩ := approach_of_loads h
  obtain ⟨quiet, ended⟩ := fetchAsset_of_brings_error (i := i) brings failed states attempt
  have silent : (l.approach i).2 = none := heq ▸ quiet
  refine ⟨states ++ [.failed], ?_⟩
  show (l.pollImport i).imports[i]? = _
  rw [pollImport_of_silent hi hearly silent, heq, ended, himports]
  simp [(List.getElem?_eq_some_iff.1 hi).1]

/-! ## When the handler is chosen -/

/-- **The handler of an import was chosen** by a resolver for a media type, and the import loaded an
asset: the handler before, without regard to the asset, or both in one turn. -/
inductive Settled (l : Loader) (events : List Event) (i : Nat) (request : ImportRequest) (asset : Asset) :
    Resolver → String → Prop where
  | early {r : Resolver} {d : Descriptor}
      (chosen : Happened (fun before e => e = .pollImport i ∧
        (l.run before).ResolvesEarly i request (.ok d) ∧
        r = ((l.run before).resolver.needsMedia request.assertion.handler request.type).2) events)
      (loaded : Happened (fun before e => e = .pollImport i ∧
        ∃ r', (l.run before).Loads i request (some d) asset r') events) :
      Settled l events i request asset r (Media.ofExtension request.url)
  | late {r : Resolver}
      (loaded : Happened (fun before e => e = .pollImport i ∧
        (l.run before).Loads i request none asset r) events) :
      Settled l events i request asset r asset.media

/-- An import that waits for its asset with a handler was resolved early. -/
theorem resolvesEarly_of_waited (hl : l.Fresh) {states : List ImportState} {attempt : UInt32}
    {till : Option Nat}
    (hi : (l.run events).imports[i]? = some ⟨states, .fetching request (some d) attempt till⟩) :
    Happened (fun before e => e = .pollImport i ∧ (l.run before).ResolvesEarly i request (.ok d))
      events := by
  have unasked := ((linked_run hl events).backed i _ hi).not_asked trivial
  obtain ⟨-, known⟩ := (traced_run hl events).stages i _ hi
  obtain ⟨before, e, later, rfl, rfl, hfinds⟩ := (known d).2 rfl
  -- a turn that finds a handler with the asset at hand asks the cache at once
  have late : ∀ {asset r}, (l.run before).Loads i request none asset r →
      ¬ Supplies r request none asset d := by
    intro asset r loads supplies
    obtain ⟨states, asked⟩ := asked_of_loads loads supplies
    exact unasked _ ⟨before, _, later, rfl, rfl, asked⟩
  cases hfinds with
  | early begun needless found => exact ⟨before, _, later, rfl, rfl, ⟨⟨_, begun⟩, needless, found⟩⟩
  | atOnce begun needed found =>
    obtain ⟨free, fetched, fetch, found⟩ := found
    exact (late (.unresolved begun needed ⟨free, fetch, rfl, rfl⟩) (.inr ⟨rfl, found⟩)).elim
  | late waited due found =>
    obtain ⟨free, fetched, fetch, found⟩ := found
    exact (late (.waited waited due ⟨free, fetch, rfl, rfl⟩) (.inr ⟨rfl, found⟩)).elim

/-- **The handler that an import has for its asset is the one that was chosen.** -/
theorem settled_of_loads (hl : l.Fresh) {before : List Event}
    (loads : (l.run before).Loads i request early asset r) (supplies : Supplies r request early asset d)
    (later : List Event) :
    ∃ r₀ media, Settled l (before ++ .pollImport i :: later) i request asset r₀ media ∧
      (r₀.resolve request.assertion.handler request.url.text request.type media).1 = .ok d := by
  rcases supplies with rfl | ⟨rfl, found⟩
  · have chosen : Happened (fun before e => e = .pollImport i ∧
        (l.run before).ResolvesEarly i request (.ok d)) (before ++ .pollImport i :: later) := by
      cases loads with
      | atOnce begun needless found =>
        exact ⟨before, _, later, rfl, rfl, ⟨_, begun⟩, needless, congrArg Prod.fst found⟩
      | waited fetching due brings => exact (resolvesEarly_of_waited hl fetching).append _
    obtain ⟨first, e, rest, hsplit, he, resolves⟩ := chosen
    exact ⟨_, _, .early ⟨first, e, rest, hsplit, he, resolves, rfl⟩ ⟨before, _, later, rfl, rfl, r, loads⟩,
      resolves.result⟩
  · exact ⟨r, _, .late ⟨before, _, later, rfl, rfl, loads⟩, found⟩

/-- The resolver that chooses is one that the run has led to. -/
theorem Settled.proceeds (h : Settled l events i request asset r media) :
    ∃ before later, events = before ++ later ∧ (l.run before).resolver.Proceeds r := by
  cases h with
  | early chosen loaded =>
    obtain ⟨before, e, later, hsplit, -, -, rfl⟩ := chosen
    exact ⟨before, e :: later, hsplit, Resolver.proceeds_needsMedia ..⟩
  | late loaded =>
    obtain ⟨before, e, later, hsplit, -, loads⟩ := loaded
    exact ⟨before, e :: later, hsplit, loads.proceeds⟩

theorem ordered_of_loads (hl : l.Fresh) {before : List Event}
    (loads : (l.run before).Loads i request early asset r) : Ordered l before i request := by
  have stages := (traced_run hl before).stages
  cases loads with
  | atOnce begun => exact (stages i _ begun).1
  | unresolved begun => exact (stages i _ begun).1
  | waited fetching => exact (stages i _ fetching).1

theorem Moves.marked {r r' : Resolver} (h : Moves r e r') (marked : r.Marked) : r'.Marked := by
  cases h with
  | proceeds proceeds => exact marked.proceeds proceeds
  | define types handler => exact marked.define types handler
  | registerModule path result => exact ⟨marked.registry, marked.memo⟩
  | changeHost host => exact ⟨marked.registry, marked.memo⟩

theorem marked_run (marked : l.resolver.Marked) (events : List Event) : (l.run events).resolver.Marked := by
  induction events using List.reverseRecOn with
  | nil => exact marked
  | append_singleton events e ih =>
    rw [run_concat]
    exact (moves_after (l.run events) e).marked ih

theorem Settled.marked (h : Settled l events i request asset r media) (marked : l.resolver.Marked) :
    r.Marked := by
  obtain ⟨before, later, -, proceeds⟩ := h.proceeds
  exact (marked_run marked before).proceeds proceeds

theorem Settled.abides (h : Settled l events i request asset r media) (steady : Steady l events) :
    Abides l.resolver r := by
  obtain ⟨before, later, rfl, proceeds⟩ := h.proceeds
  exact (abides_run steady.left).trans ⟨proceeds.policy, proceeds.host, proceeds.truthful, proceeds.keeps⟩

/-! ## The native flag -/

/-- **An import that names no handler comes to one of the host just where the flag of its asset is
set**, the policy lets the host come in and the host has a handler. -/
theorem native_iff_of_settled (truthful : l.resolver.native.Truthful) (marked : l.resolver.Marked)
    (steady : Steady l events) (h : Settled l events i request asset r media)
    (absent : request.assertion.handler = .absent) :
    (∃ d, (r.candidate .absent request.url.text request.type media).1 = .ok d ∧ d.origin = .native) ↔
      r.LetsHost request.type ∧ asset.nativeAvailable = true ∧
        ∃ handler, l.resolver.native.host.handlerFor request.type = some handler := by
  have host := (h.abides steady).host
  rw [Resolver.candidate_native_iff (h.marked marked), ← host]
  cases h with
  | early chosen loaded =>
    -- the choice did not wait, so the host has no handler where it might have come in
    obtain ⟨before, e, later, rfl, -, resolves, rfl⟩ := chosen
    have needless := needless_of_needsMedia truthful steady.left resolves.needless
    have asked := Resolver.proceeds_needsMedia (l.run before).resolver request.assertion.handler request.type
    have still := (Resolver.needless_congr asked.policy asked.registry asked.host).2 needless absent
    constructor
    · rintro ⟨lets, -, handler, offered⟩
      rw [still lets] at offered
      cases offered
    · rintro ⟨lets, -, handler, offered⟩
      rw [still lets] at offered
      cases offered
  | late loaded =>
    obtain ⟨before, e, later, rfl, -, loads⟩ := loaded
    rw [loads.flag]

/-- **The native flag agrees with the choice of handlers**, in a run of a loader. -/
structure NativesAgree (l : Loader) (events : List Event) : Prop where
  /-- For every import that loads an asset a handler is chosen. -/
  settled : ∀ i request early asset r,
    Happened (fun before e => e = .pollImport i ∧ (l.run before).Loads i request early asset r) events →
      ∃ r₀ media, Settled l events i request asset r₀ media
  /-- The policy is the same throughout. -/
  policy : ∀ i request asset r media, Settled l events i request asset r media →
    r.policy = l.resolver.policy
  /-- Where the import names no handler, one of the host is chosen just when the policy lets the host
  come in then, the flag of the asset is set, and the host has a handler for the type. -/
  native_iff : ∀ i request asset r media, Settled l events i request asset r media →
    request.assertion.handler = .absent →
      ((∃ d, (r.candidate .absent request.url.text request.type media).1 = .ok d ∧ d.origin = .native) ↔
        r.LetsHost request.type ∧ asset.nativeAvailable = true ∧
          ∃ handler, l.resolver.native.host.handlerFor request.type = some handler)
  /-- An import asks the cache with the handler that was chosen, if that takes the type. -/
  asked : ∀ i request asset r media d, Settled l events i request asset r media →
    (r.resolve request.assertion.handler request.url.text request.type media).1 = .ok d →
      ∃ own, Asks l events i own ∧ own.descriptor = d ∧ own.asset = asset ∧ own.type = request.type
  /-- Otherwise it ends. -/
  refused : ∀ i request asset r media error, Settled l events i request asset r media →
    (r.resolve request.assertion.handler request.url.text request.type media).1 = .error error →
      Happened (fun before e => ∃ states, ((l.run before).after e).imports[i]? =
        some ⟨states, .done (.error error)⟩) events
  /-- It asks with no other. -/
  chosen : ∀ i own, Asks l events i own → ∃ request r media, Ordered l events i request ∧
    own.type = request.type ∧ Settled l events i request own.asset r media ∧
    (r.resolve request.assertion.handler request.url.text request.type media).1 = .ok own.descriptor
  /-- No handler of the host is called with the flag not set. -/
  calls : ∀ comp, Calls l events comp → comp.descriptor.origin = .native →
    (comp.asset.context comp.key.type).nativeAvailable = true
  /-- Where the policy prefers the host, a default is called only with the flag not set, or for want of a
  handler of the host. -/
  defaults : ∀ comp, Calls l events comp → l.resolver.policy = .preferNative →
    comp.descriptor.origin = .registry →
      (comp.asset.context comp.key.type).nativeAvailable = false ∨
        l.resolver.native.host.handlerFor comp.key.type = none

/-- **An import asks with the handler that was chosen for it.** -/
theorem settled_of_asks (hl : l.Fresh) (asks : Asks l events i own) :
    ∃ request r media, Ordered l events i request ∧ own.type = request.type ∧
      Settled l events i request own.asset r media ∧
      (r.resolve request.assertion.handler request.url.text request.type media).1 = .ok own.descriptor := by
  obtain ⟨before, e, later, rfl, rfl, asked⟩ := asks
  obtain ⟨request, early, r, loads, supplies, htype⟩ := loads_of_asked asked
  obtain ⟨r₀, media, settled, found⟩ := settled_of_loads hl loads supplies later
  exact ⟨request, r₀, media, (ordered_of_loads hl loads).append _, htype, settled, found⟩

theorem asks_of_settled (h : Settled l events i request asset r media)
    (found : (r.resolve request.assertion.handler request.url.text request.type media).1 = .ok d) :
    ∃ own, Asks l events i own ∧ own.descriptor = d ∧ own.asset = asset ∧ own.type = request.type := by
  have asks : ∀ {before later : List Event} {early r}, events = before ++ .pollImport i :: later →
      (l.run before).Loads i request early asset r → Supplies r request early asset d →
        ∃ own, Asks l events i own ∧ own.descriptor = d ∧ own.asset = asset ∧ own.type = request.type := by
    intro before later early r hsplit loads supplies
    obtain ⟨states, asked⟩ := asked_of_loads loads supplies
    exact ⟨_, ⟨before, _, later, hsplit, rfl, asked⟩, rfl, rfl, rfl⟩
  cases h with
  | early chosen loaded =>
    obtain ⟨first, e, rest, -, -, resolves, rfl⟩ := chosen
    obtain ⟨before, e, later, hsplit, rfl, r', loads⟩ := loaded
    rw [resolves.result] at found
    cases found
    exact asks hsplit loads (.inl rfl)
  | late loaded =>
    obtain ⟨before, e, later, hsplit, rfl, loads⟩ := loaded
    exact asks hsplit loads (.inr ⟨rfl, found⟩)

theorem ends_of_settled {error : ImportError} (h : Settled l events i request asset r media)
    (failed : (r.resolve request.assertion.handler request.url.text request.type media).1 = .error error) :
    Happened (fun before e => ∃ states, ((l.run before).after e).imports[i]? =
      some ⟨states, .done (.error error)⟩) events := by
  cases h with
  | early chosen loaded =>
    obtain ⟨first, e, rest, -, -, resolves, rfl⟩ := chosen
    rw [resolves.result] at failed
    cases failed
  | late loaded =>
    obtain ⟨before, e, later, hsplit, rfl, loads⟩ := loaded
    exact ⟨before, _, later, hsplit, after_of_loads_error loads failed⟩

/-- **A handler that is called for no named one** was chosen when its import's asset was known, or
before. -/
theorem settled_of_calls (hl : l.Fresh) (marked : l.resolver.Marked) (called : Calls l events comp)
    (origin : comp.descriptor.origin = .registry ∨ comp.descriptor.origin = .native) :
    ∃ i request r media, Settled l events i request comp.asset r media ∧
      request.assertion.handler = .absent ∧ request.type = comp.key.type ∧
      (r.candidate .absent request.url.text request.type media).1 = .ok comp.descriptor := by
  obtain ⟨before, e, later, rfl, c, rfl, hc, -⟩ := called
  obtain ⟨i, own, asks, hof⟩ := (linked_run hl before).made c comp hc
  obtain ⟨request, r, media, -, htype, settled, found⟩ :=
    settled_of_asks hl (asks.append (.pollComputation c :: later))
  rw [← hof.descriptor] at found
  rw [← hof.asset] at settled
  have chosen := (Resolver.comes_resolve r request.assertion.handler request.url.text request.type
    media).chosen comp.descriptor (by rw [found]; rfl)
  have absent := Resolver.absent_of_origin (settled.marked marked) chosen origin
  have candidate := (Resolver.resolve_eq_ok_iff.1 found).1
  rw [absent] at candidate
  refine ⟨i, request, r, media, settled, absent, ?_, candidate⟩
  rw [hof.key]
  exact htype.symm

/-- **The native flag agrees with the choice of handlers**, in every run of every loader whose registry
definitions have led to and whose host gives the same answers throughout. -/
theorem nativesAgree_run (config : Config) (base : Option Url) (registry : Registry) (native : NativeMemo)
    (modules : ModuleTable) (feed : Feed) {definitions : List Registry.Event}
    (defined : registry = (Registry.InUse.run definitions).registry) (truthful : native.Truthful)
    (events : List Event) (steady : Steady (build config base registry native modules feed) events) :
    NativesAgree (build config base registry native modules feed) events := by
  have hl := fresh_build config base registry native modules feed
  have true : (build config base registry native modules feed).resolver.native.Truthful := truthful
  have marked : (build config base registry native modules feed).resolver.Marked := by
    refine ⟨fun type d hd => ?_, fun path d hd => by cases hd⟩
    subst defined
    exact Registry.InUse.origin_run definitions type d hd
  refine ⟨?settled, ?policy, ?native_iff, ?asked, ?refused, ?chosen, ?calls, ?defaults⟩
  case settled =>
    rintro i request early asset r ⟨before, e, later, rfl, rfl, loads⟩
    cases early with
    | none => exact ⟨r, _, .late ⟨before, _, later, rfl, rfl, loads⟩⟩
    | some d =>
      obtain ⟨r₀, media, settled, -⟩ := settled_of_loads hl loads (.inl rfl) later
      exact ⟨r₀, media, settled⟩
  case policy =>
    intro i request asset r media settled
    exact (settled.abides steady).policy
  case native_iff =>
    intro i request asset r media settled absent
    exact native_iff_of_settled true marked steady settled absent
  case asked =>
    intro i request asset r media d settled found
    exact asks_of_settled settled found
  case refused =>
    intro i request asset r media error settled failed
    exact ends_of_settled settled failed
  case chosen =>
    intro i own asks
    exact settled_of_asks hl asks
  case calls =>
    intro comp called origin
    obtain ⟨i, request, r, media, settled, absent, -, candidate⟩ :=
      settled_of_calls hl marked called (.inr origin)
    exact ((native_iff_of_settled true marked steady settled absent).1 ⟨_, candidate, origin⟩).2.1
  case defaults =>
    intro comp called prefers origin
    obtain ⟨i, request, r, media, settled, absent, htype, candidate⟩ :=
      settled_of_calls hl marked called (.inl origin)
    have lets : r.LetsHost request.type := .inl ((settled.abides steady).policy.trans prefers)
    have agree := native_iff_of_settled true marked steady settled absent
    show comp.asset.nativeAvailable = false ∨ _
    cases flag : comp.asset.nativeAvailable with
    | false => exact .inl rfl
    | true =>
      right
      rw [← htype]
      cases offered : (build config base registry native modules feed).resolver.native.host.handlerFor
        request.type with
      | none => rfl
      | some handler =>
        -- a handler of the host would have been chosen, and no default
        obtain ⟨d, native, horigin⟩ := agree.2 ⟨lets, flag, handler, offered⟩
        rw [candidate] at native
        cases native
        rw [origin] at horigin
        cases horigin

/-! ## A sheet that the host reads -/

/-- A host with a handler for one type, which it supports for one media type. -/
def reader : NativeHost where
  supports type media := type = "csv" ∧ media = "text/csv"
  handlerFor type := if type = "csv" then some csvHandler else none

def readerLoader : Loader :=
  build { policy := .nativeOnRegistryMiss } none .empty { host := reader } {}
    (.memory { assets := [(sheet.text, ⟨[], some "text/csv; charset=utf-8"⟩)] } [] [])

/-- The sheet, which has no extension, is imported without a handler while there is no default. -/
def readSheet : List Event :=
  [.submit (sheetAs "csv" .absent), .pollImport 0, .pollComputation 0]

/-- The import of the sheet is as `nativesAgree_run` says, and asks for the handler of the host. -/
theorem nativesAgree_readSheet :
    Registry.empty = (Registry.InUse.run []).registry ∧ NativeMemo.Truthful { host := reader } ∧
      Steady readerLoader readSheet ∧ NativesAgree readerLoader readSheet ∧
      ∃ own, Asks readerLoader readSheet 0 own ∧ own.descriptor.origin = .native ∧
        own.asset.nativeAvailable = true := by
  have defined : Registry.empty = (Registry.InUse.run []).registry := rfl
  have truthful := NativeMemo.truthful_of_unasked reader
  have steady : Steady readerLoader readSheet := by
    intro host hhost
    simp [readSheet] at hhost
  have asked : ((readerLoader.run (readSheet.take 1)).approach 0).2.map
      (fun own => (own.descriptor.origin, own.asset.nativeAvailable)) = some (.native, true) := by
    decide +kernel
  obtain ⟨own, hasked, hown⟩ := Option.map_eq_some_iff.1 asked
  have asks : Asks readerLoader readSheet 0 own := ⟨readSheet.take 1, _, readSheet.drop 2, rfl, rfl, hasked⟩
  exact ⟨defined, truthful, steady, nativesAgree_run _ _ _ _ _ _ defined truthful _ steady, own, asks,
    congrArg Prod.fst hown, congrArg Prod.snd hown⟩

end Loader

end TypedImport
