import TypedImport.Proofs.Import.Checks
import TypedImport.Proofs.Loader.Demands

/-!
# What an import was ordered for

An import comes in with a request and carries it until it asks the cache. On the way a handler is resolved
for it, once, and what it asks for in the end is the asset that was fetched in that very turn. `Traced`
says this of a run: each demand goes back to the request of its import, to the turn in which its handler was
resolved, and to the fetch of its content.

**Early and late.** A handler is resolved in the first turn of an import, or else with the media type of
the asset, in the turn of the fetch. `Finds` lists the ways; an import takes one of them, and an early
stage shows whether it has (`Import.Stage.Carries`).
-/

namespace TypedImport

/-- A resolver has a descriptor for a request, given the media type of what was fetched. -/
def Resolver.FindsWith (r : Resolver) (request : ImportRequest) (fetched : Fetched) (d : Descriptor) :
    Prop :=
  let media := (Asset.mediaOf request.url fetched.contentType).1
  ({ r with native := (r.native.supports request.type media).2 }.resolve request.assertion.handler
    request.url.text request.type media).1 = .ok d

/-- **A demand is of what was fetched for a request**, and of the type of the request. -/
structure Demand.IsOf (d : Demand) (request : ImportRequest) (fetched : Fetched) : Prop where
  type : d.type = request.type
  asset : ∃ native, d.asset =
    (Asset.ofFetched native request.url request.type request.assertion.encoding fetched).1

namespace Demand.IsOf

variable {d : Demand} {request : ImportRequest} {fetched : Fetched}

theorem key (h : d.IsOf request fetched) :
    d.key = ⟨request.url.text, d.descriptor.id, request.type⟩ := by
  obtain ⟨native, hasset⟩ := h.asset
  rw [Demand.key, hasset, h.type]
  rfl

theorem content (h : d.IsOf request fetched) :
    d.asset.fingerprint = fingerprint fetched.bytes := by
  obtain ⟨native, hasset⟩ := h.asset
  rw [hasset]
  rfl

end Demand.IsOf

/-- **What an early stage carries**: a request that was ordered, and the handler that was resolved for it,
if one was. -/
def Import.Stage.Carries (ordered : ImportRequest → Prop)
    (resolved : ImportRequest → Descriptor → Prop) : Import.Stage → Prop
  | .begun request => ordered request ∧ ∀ d, ¬ resolved request d
  | .fetching request early _ _ => ordered request ∧ ∀ d, resolved request d ↔ early = some d
  | _ => True

theorem Import.Stage.Carries.congr {ordered ordered' : ImportRequest → Prop}
    {resolved resolved' : ImportRequest → Descriptor → Prop} {stage : Import.Stage}
    (h : stage.Carries ordered resolved) (order : ∀ request, ordered request → ordered' request)
    (same : ∀ request d, resolved' request d ↔ resolved request d) :
    stage.Carries ordered' resolved' := by
  cases stage with
  | begun request => exact ⟨order _ h.1, fun d hd => h.2 d ((same _ _).1 hd)⟩
  | fetching request early attempt till => exact ⟨order _ h.1, fun d => (same _ _).trans (h.2 d)⟩
  | computing t => trivial
  | done result => trivial
  | dropped => trivial

theorem Import.Stage.Carries.of_not_early {ordered : ImportRequest → Prop}
    {resolved : ImportRequest → Descriptor → Prop} {stage : Import.Stage} (late : ¬ stage.Early) :
    stage.Carries ordered resolved := by
  cases stage with
  | begun request => exact absurd trivial late
  | fetching request early attempt till => exact absurd trivial late
  | computing t => trivial
  | done result => trivial
  | dropped => trivial

namespace Loader

variable {l l' : Loader} {i : Nat} {e : Event} {events : List Event} {request : ImportRequest}
  {ordered : ImportRequest → Prop} {resolved : ImportRequest → Descriptor → Prop}
  {fetches : ImportRequest → Fetched → Prop}

/-! ## Orders -/

/-- **An event orders an import** with a request: it hands in the request, or a specifier and an assertion
that come to it. -/
inductive Event.Orders (base : Option Url) (request : ImportRequest) : Event → Prop where
  | submitted : Orders base request (.submit request)
  | named {specifier : String} {referrer : Option Url} {a : Assertion} {bindings : Bindings} {url : Url}
      (resolved : Specifier.resolve base referrer specifier = .ok url)
      (checked : ImportRequest.make specifier url a bindings = .ok request) :
      Orders base request (.startImport specifier referrer a bindings)

theorem Event.Orders.unique {base : Option Url} {other : ImportRequest}
    (h : Event.Orders base request e) (h' : Event.Orders base other e) : request = other := by
  cases h with
  | submitted =>
    cases h'
    rfl
  | named resolved checked =>
    cases h' with
    | named resolved' checked' =>
      rw [resolved] at resolved'
      cases resolved'
      rw [checked] at checked'
      cases checked'
      rfl

/-- **An import by name is refused, or it comes in with the request that was ordered.** -/
theorem startImport_cases (l : Loader) (specifier : String) (referrer : Option Url) (a : Assertion)
    (bindings : Bindings) :
    (∃ error, l.startImport specifier referrer a bindings = l.refuse error ∧
        ∀ request, ¬ Event.Orders l.base request (.startImport specifier referrer a bindings)) ∨
      ∃ request, Event.Orders l.base request (.startImport specifier referrer a bindings) ∧
        l.startImport specifier referrer a bindings = l.submit request := by
  unfold startImport
  dsimp only
  split
  next error hcheck =>
    refine .inl ⟨error, rfl, fun request h => ?_⟩
    cases h with
    | named resolved checked =>
      obtain ⟨b, hb, -⟩ := ImportRequest.make_eq_ok_iff.1 checked
      rw [Assertion.check_eq_ok_iff.2 (Assertion.check_eq_ok_iff.1 hb)] at hcheck
      cases hcheck
  next b hb =>
    split
    next fault hresolved =>
      refine .inl ⟨_, rfl, fun request h => ?_⟩
      cases h with
      | named resolved checked =>
        rw [hresolved] at resolved
        cases resolved
    next url hresolved =>
      have same := ImportRequest.make_of_check hb url
      split
      next error hmake =>
        refine .inl ⟨_, rfl, fun request h => ?_⟩
        cases h with
        | named resolved checked =>
          rw [hresolved] at resolved
          cases resolved
          rw [same, hmake] at checked
          cases checked
      next request hmake => exact .inr ⟨request, .named hresolved (same.trans hmake), rfl⟩

theorem after_of_orders (h : Event.Orders l.base request e) : l.after e = l.submit request := by
  cases h with
  | submitted => rfl
  | @named specifier referrer a bindings url hresolved hchecked =>
    rcases startImport_cases l specifier referrer a bindings with ⟨-, -, hnone⟩ | ⟨other, ho, heq⟩
    · exact (hnone request (.named hresolved hchecked)).elim
    · rw [ho.unique (.named hresolved hchecked)] at heq
      exact heq

/-- **Import `i` of a run was ordered** with a request: it is the one that came in with it. -/
def Ordered (l : Loader) (events : List Event) (i : Nat) (request : ImportRequest) : Prop :=
  Happened (fun before e => Event.Orders (l.run before).base request e ∧
    (l.run before).imports.length = i) events

theorem lt_of_ordered (h : Ordered l events i request) : i < (l.run events).imports.length := by
  induction events using List.reverseRecOn with
  | nil => exact (not_happened_nil h).elim
  | append_singleton events e ih =>
    have grown := (turn_after (l.run events) e).length_imports_le
    rw [run_concat]
    rcases happened_concat.1 h with hold | ⟨horders, rfl⟩
    · exact Nat.lt_of_lt_of_le (ih hold) grown
    · rw [after_of_orders horders, submit, List.length_append]
      exact Nat.lt_succ_self _

/-- **An import was ordered with one request only.** -/
theorem ordered_unique {other : ImportRequest} (h : Ordered l events i request)
    (h' : Ordered l events i other) : request = other := by
  induction events using List.reverseRecOn with
  | nil => exact (not_happened_nil h).elim
  | append_singleton events e ih =>
    rcases happened_concat.1 h with hold | ⟨horders, hlen⟩
    · rcases happened_concat.1 h' with hold' | ⟨-, hlen'⟩
      · exact ih hold hold'
      · exact absurd hlen' (Nat.ne_of_gt (lt_of_ordered hold))
    · rcases happened_concat.1 h' with hold' | ⟨horders', -⟩
      · exact absurd hlen (Nat.ne_of_gt (lt_of_ordered hold'))
      · exact horders.unique horders'

/-! ## A turn of an import -/

/-- A fetch brings the asset of a request, and the resolver has a descriptor for it. -/
def FindsByFetch (l : Loader) (request : ImportRequest) (d : Descriptor) : Prop :=
  l.isHeld request.url = false ∧ ∃ fetched, (l.feed.fetch request.url).1 = .ok fetched ∧
    l.resolver.FindsWith request fetched d

/-- **A turn of import `i` finds the descriptor** for its request. -/
inductive Finds (l : Loader) (i : Nat) (request : ImportRequest) (d : Descriptor) : Prop where
  /-- In the first turn, where the choice need not wait for the asset. -/
  | early {states : List ImportState} (begun : l.imports[i]? = some ⟨states, .begun request⟩)
      (needless : (l.resolver.needsMedia request.assertion.handler request.type).1 = false)
      (found : ((l.resolver.needsMedia request.assertion.handler request.type).2.resolve
        request.assertion.handler request.url.text request.type (Media.ofExtension request.url)).1 =
          .ok d)
  /-- In the first turn, where the choice has to wait for the asset and that is there at once. -/
  | atOnce {states : List ImportState} (begun : l.imports[i]? = some ⟨states, .begun request⟩)
      (needed : (l.resolver.needsMedia request.assertion.handler request.type).1 = true)
      (found : { l with
        resolver := (l.resolver.needsMedia request.assertion.handler request.type).2 }.FindsByFetch
          request d)
  /-- In a later turn, where the choice has waited for the asset until then. -/
  | late {states : List ImportState} {attempt : UInt32} {till : Option Nat}
      (waited : l.imports[i]? = some ⟨states, .fetching request none attempt till⟩)
      (due : l.isPast till = true) (found : l.FindsByFetch request d)

theorem early_of_finds {d : Descriptor} (h : l.Finds i request d) :
    ∃ imp, l.imports[i]? = some imp ∧ imp.stage.Early := by
  cases h with
  | early begun => exact ⟨_, begun, trivial⟩
  | atOnce begun => exact ⟨_, begun, trivial⟩
  | late waited => exact ⟨_, waited, trivial⟩

theorem finds_begun_iff {states : List ImportState}
    (begun : l.imports[i]? = some ⟨states, .begun request⟩) (d : Descriptor) :
    l.Finds i request d ↔
      (l.resolver.needsMedia request.assertion.handler request.type).1 = false ∧
        ((l.resolver.needsMedia request.assertion.handler request.type).2.resolve
          request.assertion.handler request.url.text request.type (Media.ofExtension request.url)).1 =
            .ok d ∨
      (l.resolver.needsMedia request.assertion.handler request.type).1 = true ∧
        { l with
          resolver := (l.resolver.needsMedia request.assertion.handler request.type).2 }.FindsByFetch
            request d := by
  constructor
  · intro h
    cases h with
    | early _ needless found => exact .inl ⟨needless, found⟩
    | atOnce _ needed found => exact .inr ⟨needed, found⟩
    | late waited =>
      rw [begun] at waited
      cases waited
  · rintro (⟨needless, found⟩ | ⟨needed, found⟩)
    · exact .early begun needless found
    · exact .atOnce begun needed found

theorem finds_fetching_iff {states : List ImportState} {other : ImportRequest}
    {early : Option Descriptor} {attempt : UInt32} {till : Option Nat}
    (fetching : l.imports[i]? = some ⟨states, .fetching request early attempt till⟩) (d : Descriptor) :
    l.Finds i other d ↔
      other = request ∧ early = none ∧ l.isPast till = true ∧ l.FindsByFetch request d := by
  constructor
  · intro h
    cases h with
    | early begun =>
      rw [fetching] at begun
      cases begun
    | atOnce begun =>
      rw [fetching] at begun
      cases begun
    | late waited due found =>
      rw [fetching] at waited
      cases waited
      exact ⟨rfl, rfl, due, found⟩
  · rintro ⟨rfl, rfl, due, found⟩
    exact .late fetching due found

/-- **A turn of import `i` up to the question to the cache**, seen from its request: `resolved` is what has
been resolved for it by the end of the turn, and a demand is of that handler and of what was fetched. -/
structure Pursued (l : Loader) (i : Nat) (ordered : ImportRequest → Prop)
    (resolved : ImportRequest → Descriptor → Prop) (fetches : ImportRequest → Fetched → Prop)
    (turn : Loader × Option Demand) : Prop where
  others : ∀ j, j ≠ i → turn.1.imports[j]? = l.imports[j]?
  silent : turn.2 = none → ∀ imp, turn.1.imports[i]? = some imp → imp.stage.Carries ordered resolved
  asked : ∀ d, turn.2 = some d → ∃ request fetched, ordered request ∧
    (∀ d', resolved request d' ↔ d' = d.descriptor) ∧ fetches request fetched ∧ d.IsOf request fetched

theorem Pursued.of {turn : Loader × Option Demand} (h : Pursued l' i ordered resolved fetches turn)
    (hi : l'.imports = l.imports) : Pursued l i ordered resolved fetches turn where
  others := hi ▸ h.others
  silent := h.silent
  asked := h.asked

theorem Pursued.written {turn : Loader × Option Demand} (quiet : turn.2 = none) {new : Import}
    (himports : turn.1.imports = l.imports.set i new) (carries : new.stage.Carries ordered resolved) :
    Pursued l i ordered resolved fetches turn where
  others j hj := by rw [himports, List.getElem?_set_ne (Ne.symm hj)]
  silent _ imp himp := by
    rw [himports, List.getElem?_set_self'] at himp
    obtain ⟨-, -, rfl⟩ := Option.map_eq_some_iff.1 himp
    exact carries
  asked d hd := by
    rw [quiet] at hd
    cases hd

theorem Pursued.fail (l : Loader) (i : Nat) (states : List ImportState) (e : ImportError) :
    Pursued l i ordered resolved fetches (l.fail i states e, none) :=
  .written rfl (fail_imports ..) trivial

theorem Pursued.wait (l : Loader) (i : Nat) (states : List ImportState) {early : Option Descriptor}
    (order : ordered request) (known : ∀ d, resolved request d ↔ early = some d) (attempt : UInt32)
    (till : Option Nat) :
    Pursued l i ordered resolved fetches
      (l.setImport i states (.fetching request early attempt till), none) :=
  .written rfl (setImport_imports ..) ⟨order, known⟩

theorem Pursued.asks {fetched : Fetched} {d : Demand} {turn : Loader × Option Demand}
    (himports : turn.1.imports = l.imports) (demand : turn.2 = some d) (order : ordered request)
    (known : ∀ d', resolved request d' ↔ d' = d.descriptor) (fetch : fetches request fetched)
    (isOf : d.IsOf request fetched) : Pursued l i ordered resolved fetches turn where
  others _ _ := by rw [himports]
  silent quiet := by
    rw [demand] at quiet
    cases quiet
  asked d' hd' := by
    rw [demand] at hd'
    cases hd'
    exact ⟨request, fetched, order, known, fetch, isOf⟩

theorem pursued_receive (states : List ImportState) {early : Option Descriptor}
    (order : ordered request) {fetched : Fetched}
    (known : ∀ d, resolved request d ↔
      early = some d ∨ early = none ∧ l.resolver.FindsWith request fetched d)
    (fetch : fetches request fetched) :
    Pursued l i ordered resolved fetches (l.receive i states request early fetched) := by
  unfold receive
  cases early with
  | some d =>
    refine .asks rfl rfl order (fun d' => (known d').trans ?_) fetch ⟨rfl, _, rfl⟩
    simp [eq_comm]
  | none =>
    dsimp only
    split
    next d r hr =>
      have hfound : l.resolver.FindsWith request fetched d := congrArg Prod.fst hr
      refine .asks rfl rfl order (fun d' => (known d').trans ?_) fetch ⟨rfl, _, rfl⟩
      constructor
      · rintro (hsome | ⟨-, hfound'⟩)
        · cases hsome
        · exact Except.ok.inj (hfound'.symm.trans hfound)
      · rintro rfl
        exact .inr ⟨rfl, hfound⟩
    next => exact (Pursued.fail ..).of rfl

theorem pursued_fetchAsset (states : List ImportState) {early : Option Descriptor}
    (order : ordered request)
    (known : ∀ d, resolved request d ↔ early = some d ∨ early = none ∧ l.FindsByFetch request d)
    (attempt : UInt32)
    (fetch : ∀ fetched, (l.feed.fetch request.url).1 = .ok fetched → fetches request fetched) :
    Pursued l i ordered resolved fetches (l.fetchAsset i states request early attempt) := by
  have unfetched : (∀ d, ¬ l.FindsByFetch request d) → ∀ d, resolved request d ↔ early = some d := by
    intro hnone d
    rw [known d]
    exact or_iff_left fun h => hnone d h.2
  unfold fetchAsset
  split
  next held =>
    refine .wait _ _ _ order (unfetched fun d h => ?_) _ _
    rw [h.1] at held
    cases held
  next free =>
    have hopen : l.isHeld request.url = false := Bool.eq_false_iff.2 free
    dsimp only
    split
    next fetched hfetch =>
      refine Pursued.of (pursued_receive states order (fun d => ?_) (fetch fetched hfetch)) rfl
      rw [known d]
      unfold FindsByFetch
      simp [hopen, hfetch]
    next failure hfetch =>
      have hnone : ∀ d, ¬ l.FindsByFetch request d := by
        rintro d ⟨-, fetched, hok, -⟩
        rw [hfetch] at hok
        cases hok
      split
      · exact (Pursued.wait _ _ _ order (unfetched hnone) _ _).of rfl
      · exact (Pursued.fail ..).of rfl

theorem pursued_resolveHandler {states : List ImportState}
    (begun : l.imports[i]? = some ⟨states, .begun request⟩) (order : ordered request)
    (finds : ∀ d, resolved request d ↔ l.Finds i request d)
    (fetch : ∀ fetched, (l.feed.fetch request.url).1 = .ok fetched → fetches request fetched) :
    Pursued l i ordered resolved fetches (l.resolveHandler i states request) := by
  unfold resolveHandler
  dsimp only
  split
  next needed =>
    refine Pursued.of (pursued_fetchAsset _ order (fun d => ?_) 0 fetch) rfl
    rw [finds d, finds_begun_iff begun, needed]
    simp
  next hneedless =>
    have needless := Bool.eq_false_iff.2 hneedless
    split
    next d r hr =>
      refine Pursued.of (pursued_fetchAsset _ order (fun d' => ?_) 0 fetch) rfl
      rw [finds d', finds_begun_iff begun, needless, hr]
      simp
    next => exact (Pursued.fail ..).of rfl

/-- **An import pursues its request** in each of its turns. -/
theorem pursued_approach {resolved' : ImportRequest → Descriptor → Prop}
    (carries : ∀ imp, l.imports[i]? = some imp → imp.stage.Carries ordered resolved)
    (grown : ∀ request d, resolved' request d ↔ resolved request d ∨ l.Finds i request d) :
    Pursued l i ordered resolved'
      (fun request fetched => (l.feed.fetch request.url).1 = .ok fetched) (l.approach i) := by
  have still : (∀ request d, ¬ l.Finds i request d) → Pursued l i ordered resolved'
      (fun request fetched => (l.feed.fetch request.url).1 = .ok fetched) (l, none) := fun hnone =>
    { others := fun _ _ => rfl
      silent := fun _ imp himp => (carries imp himp).congr (fun _ h => h) fun request d =>
        (grown request d).trans (or_iff_left (hnone request d))
      asked := fun d hd => by cases hd }
  unfold approach
  split
  next states request hi =>
    obtain ⟨order, unresolved⟩ := carries _ hi
    refine pursued_resolveHandler hi order (fun d => (grown request d).trans ?_) fun _ h => h
    exact or_iff_right (unresolved d)
  next states request early attempt till hi =>
    obtain ⟨order, known⟩ := carries _ hi
    split
    next due =>
      refine pursued_fetchAsset states order (fun d => ?_) attempt fun _ h => h
      rw [grown, known, finds_fetching_iff hi]
      simp [due]
    next undue => exact still fun request d h => undue ((finds_fetching_iff hi d).1 h).2.2.1
  next hbegun hfetching =>
    -- an import that has asked or is over finds no handler any more
    refine still fun request d h => ?_
    cases h with
    | early begun => exact hbegun _ _ begun
    | atOnce begun => exact hbegun _ _ begun
    | late waited => exact hfetching _ _ _ _ _ waited

/-! ## Events -/

/-- The imports of a list carry what was ordered and resolved for their places. -/
def Carrying (imports : List Import) (ordered : Nat → ImportRequest → Prop)
    (resolved : Nat → ImportRequest → Descriptor → Prop) : Prop :=
  ∀ (i : Nat) (imp : Import), imports[i]? = some imp → imp.stage.Carries (ordered i) (resolved i)

section Carrying

variable {imports : List Import} {ordered : Nat → ImportRequest → Prop}
  {resolved : Nat → ImportRequest → Descriptor → Prop} {new : Import}

theorem Carrying.append (h : Carrying imports ordered resolved)
    (fresh : new.stage.Carries (ordered imports.length) (resolved imports.length)) :
    Carrying (imports ++ [new]) ordered resolved := by
  intro i imp hi
  rcases Flights.getElem?_append_singleton hi with hold | ⟨rfl, rfl⟩
  · exact h i imp hold
  · exact fresh

theorem carrying_of_set {k : Nat}
    (others : ∀ i imp, i ≠ k → imports[i]? = some imp → imp.stage.Carries (ordered i) (resolved i))
    (fresh : new.stage.Carries (ordered k) (resolved k)) :
    Carrying (imports.set k new) ordered resolved := by
  intro i imp hi
  by_cases hk : i = k
  · subst hk
    rw [List.getElem?_set_self'] at hi
    obtain ⟨-, -, rfl⟩ := Option.map_eq_some_iff.1 hi
    exact fresh
  · rw [List.getElem?_set_ne (Ne.symm hk)] at hi
    exact others i imp hk hi

theorem carrying_pollImport
    (others : ∀ j imp, j ≠ i → l.imports[j]? = some imp → imp.stage.Carries (ordered j) (resolved j))
    (pursued : Pursued l i (ordered i) (resolved i) fetches (l.approach i)) :
    Carrying (l.pollImport i).imports ordered resolved := by
  unfold pollImport
  split
  next old ticket hi =>
    split
    next result flights _ =>
      obtain ⟨states, himports⟩ :=
        finishImport_imports (l := { l with flights := flights }) (i := i) old result
      rw [himports]
      exact carrying_of_set others trivial
    next =>
      intro j imp hj
      by_cases hk : j = i
      · subst hk
        rw [hi] at hj
        cases hj
        trivial
      · exact others j imp hk hj
  next =>
    have approached : ∀ j imp, j ≠ i → (l.approach i).1.imports[j]? = some imp →
        imp.stage.Carries (ordered j) (resolved j) :=
      fun j imp hk hj => others j imp hk ((pursued.others j hk).symm.trans hj)
    split
    next l₀ d hr =>
      rw [hr] at approached
      obtain ⟨states, stage, himports, hlate⟩ := serve_imports l₀ i d
      rw [himports]
      exact carrying_of_set approached (.of_not_early hlate)
    next l₀ hr =>
      rw [hr] at approached pursued
      intro j imp hj
      by_cases hk : j = i
      · subst hk
        exact pursued.silent rfl imp hj
      · exact approached j imp hk hj

theorem carrying_dropImport (h : Carrying l.imports ordered resolved) (i : Nat) :
    Carrying (l.dropImport i).imports ordered resolved := by
  unfold dropImport
  split
  · exact h
  · exact carrying_of_set (fun j imp _ => h j imp) trivial
  · exact carrying_of_set (fun j imp _ => h j imp) trivial
  · exact h

/-- **An event keeps the imports carrying** what was ordered and resolved by its end. -/
theorem carrying_after
    (others : ∀ i imp, e ≠ .pollImport i → l.imports[i]? = some imp →
      imp.stage.Carries (ordered i) (resolved i))
    (pursued : ∀ i, e = .pollImport i → ∃ fetches, Pursued l i (ordered i) (resolved i) fetches
      (l.approach i))
    (orders : ∀ request, Event.Orders l.base request e →
      ordered l.imports.length request ∧ ∀ d, ¬ resolved l.imports.length request d) :
    Carrying (l.after e).imports ordered resolved := by
  have quiet : (∀ i, e ≠ .pollImport i) → Carrying l.imports ordered resolved :=
    fun hne i imp => others i imp (hne i)
  cases e with
  | startImport specifier referrer a bindings =>
    have h := quiet fun i he => by cases he
    show Carrying (l.startImport specifier referrer a bindings).imports ordered resolved
    rcases startImport_cases l specifier referrer a bindings with ⟨error, heq, -⟩ | ⟨request, ho, heq⟩
    · rw [heq]
      exact h.append trivial
    · rw [heq]
      exact h.append (orders request ho)
  | submit request => exact (quiet fun i he => by cases he).append (orders request .submitted)
  | pollImport i =>
    obtain ⟨fetches, hp⟩ := pursued i rfl
    refine carrying_pollImport (fun j imp hj => others j imp fun he => ?_) hp
    cases he
    exact hj rfl
  | pollComputation c =>
    show Carrying (l.pollComputation c).imports ordered resolved
    rw [(pollComputation_resolver l c).2]
    exact quiet fun i he => by cases he
  | pollHandler c =>
    have h := quiet fun i he => by cases he
    show Carrying (l.pollHandler c).imports ordered resolved
    unfold pollHandler
    split
    · split <;> exact h
    · exact h
  | dropImport i => exact carrying_dropImport (quiet fun i he => by cases he) i
  | define | registerModule | clear | invalidate | changeFeed | changeHost | openGate | pass =>
    exact quiet fun i he => by cases he

end Carrying

/-! ## Runs -/

/-- **A handler was resolved for import `i` of a run**, in a turn of the import. -/
def Resolved (l : Loader) (events : List Event) (i : Nat) (request : ImportRequest) (d : Descriptor) :
    Prop :=
  Happened (fun before e => e = .pollImport i ∧ (l.run before).Finds i request d) events

/-- **Import `i` of a run has fetched a content** for a request and asked the cache for its record, with a
demand, in one turn. -/
def Fetches (l : Loader) (events : List Event) (i : Nat) (request : ImportRequest) (fetched : Fetched)
    (d : Demand) : Prop :=
  Happened (fun before e => e = .pollImport i ∧ ((l.run before).approach i).2 = some d ∧
    ((l.run before).feed.fetch request.url).1 = .ok fetched ∧ d.IsOf request fetched) events

theorem isOf_of_fetches {fetched : Fetched} {d : Demand} (h : Fetches l events i request fetched d) :
    d.IsOf request fetched := by
  obtain ⟨before, e, later, -, -, -, -, hof⟩ := h
  exact hof

theorem lt_of_resolved {d : Descriptor} (h : Resolved l events i request d) :
    i < (l.run events).imports.length := by
  induction events using List.reverseRecOn with
  | nil => exact (not_happened_nil h).elim
  | append_singleton events e ih =>
    have grown := (turn_after (l.run events) e).length_imports_le
    rw [run_concat]
    refine Nat.lt_of_lt_of_le ?_ grown
    rcases happened_concat.1 h with hold | ⟨-, hfinds⟩
    · exact ih hold
    · obtain ⟨imp, hi, -⟩ := early_of_finds hfinds
      exact (List.getElem?_eq_some_iff.1 hi).1

/-- **The imports and demands of a run go back to requests**, and each import has one handler. -/
structure Traced (l : Loader) (events : List Event) : Prop where
  stages : Carrying (l.run events).imports (Ordered l events) (Resolved l events)
  demands : ∀ (i : Nat) (d : Demand), Asks l events i d → ∃ request fetched,
    Ordered l events i request ∧ (∀ d', Resolved l events i request d' ↔ d' = d.descriptor) ∧
      Fetches l events i request fetched d

theorem Traced.fresh (hl : l.Fresh) : Traced l [] where
  stages i imp hi := by
    rw [show l.run [] = l from rfl, hl.imports] at hi
    cases hi
  demands i d h := (not_happened_nil h).elim

theorem Traced.pursued (h : Traced l events) (i : Nat) :
    Pursued (l.run events) i (Ordered l (events ++ [.pollImport i]) i)
      (Resolved l (events ++ [.pollImport i]) i)
      (fun request fetched => ((l.run events).feed.fetch request.url).1 = .ok fetched)
      ((l.run events).approach i) := by
  have carries : ∀ imp, (l.run events).imports[i]? = some imp → imp.stage.Carries
      (Ordered l (events ++ [.pollImport i]) i) (Resolved l events i) := by
    intro imp hi
    exact (h.stages i imp hi).congr (fun request ho => ho.append _) fun _ _ => .rfl
  have grown : ∀ request d, Resolved l (events ++ [.pollImport i]) i request d ↔
      Resolved l events i request d ∨ (l.run events).Finds i request d := by
    intro request d
    exact happened_concat.trans (or_congr_right (and_iff_right rfl))
  exact pursued_approach carries grown

theorem Traced.concat (h : Traced l events) (hl : l.Fresh) (e : Event) : Traced l (events ++ [e]) := by
  constructor
  case stages =>
    have others : ∀ i imp, e ≠ .pollImport i → (l.run events).imports[i]? = some imp →
        imp.stage.Carries (Ordered l (events ++ [e]) i) (Resolved l (events ++ [e]) i) := by
      intro i imp hne hi
      refine (h.stages i imp hi).congr (fun request ho => ho.append _) fun request d => ?_
      exact happened_concat.trans (or_iff_left fun hnew => hne hnew.1)
    have orders : ∀ request, Event.Orders (l.run events).base request e →
        Ordered l (events ++ [e]) (l.run events).imports.length request ∧
          ∀ d, ¬ Resolved l (events ++ [e]) (l.run events).imports.length request d := by
      intro request ho
      refine ⟨happened_concat.2 (.inr ⟨ho, rfl⟩), fun d hd => ?_⟩
      -- an import that has not come in yet has had no turn
      rcases happened_concat.1 hd with hold | ⟨-, hfinds⟩
      · exact Nat.lt_irrefl _ (lt_of_resolved hold)
      · obtain ⟨imp, hi, -⟩ := early_of_finds hfinds
        exact Nat.lt_irrefl _ (List.getElem?_eq_some_iff.1 hi).1
    rw [run_concat]
    refine carrying_after others ?_ orders
    rintro i rfl
    exact ⟨_, h.pursued i⟩
  case demands =>
    intro i d hd
    rcases asks_concat.1 hd with hold | ⟨rfl, hnew⟩
    · obtain ⟨request, fetched, ho, hr, hf⟩ := h.demands i d hold
      -- an import that has asked is early no more, and then no handler is resolved for it
      have unfound : ∀ d', ¬ (e = .pollImport i ∧ (l.run events).Finds i request d') := by
        rintro d' ⟨-, hfinds⟩
        obtain ⟨imp, hi, hearly⟩ := early_of_finds hfinds
        exact ((linked_run hl events).backed i imp hi).not_asked hearly d hold
      refine ⟨request, fetched, ho.append [e], fun d' => ?_, hf.append [e]⟩
      exact (happened_concat.trans (or_iff_left (unfound d'))).trans (hr d')
    · obtain ⟨request, fetched, ho, hr, hfetch, hof⟩ := (h.pursued i).asked d hnew
      exact ⟨request, fetched, ho, hr, happened_concat.2 (.inr ⟨rfl, hnew, hfetch, hof⟩)⟩

/-- **Every run is traced.** -/
theorem traced_run (hl : l.Fresh) (events : List Event) : Traced l events := by
  induction events using List.reverseRecOn with
  | nil => exact .fresh hl
  | append_singleton events e ih => exact ih.concat hl e

end Loader

end TypedImport
