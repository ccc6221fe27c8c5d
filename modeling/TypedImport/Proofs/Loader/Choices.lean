import TypedImport.Proofs.Handler.Resolution
import TypedImport.Proofs.Loader.Requests

/-!
# What the resolver of a loader goes through

The turns of imports lead the resolver of a loader on (`proceeds_pollImport`); any other event leaves it alone
or changes what it chooses from (`moves_after`). Where a turn finds a descriptor for a request, the resolver
has resolved it on the way (`resolves_of_finds`). So what was found takes the type of the request and was
chosen from what the resolver had (`chooses_of_finds`), and what was found for a module is kept for its path
afterwards (`kept_of_finds`).
-/

namespace TypedImport

/-- A resolver that was asked about what was fetched for a request. -/
def Resolver.asked (r : Resolver) (request : ImportRequest) (fetched : Fetched) : Resolver :=
  { r with
    native := (r.native.supports request.type (Asset.mediaOf request.url fetched.contentType).1).2 }

/-- **A resolver resolves a descriptor for a request on its way** to another. -/
def Resolver.Resolves (r : Resolver) (request : ImportRequest) (d : Descriptor) (r' : Resolver) : Prop :=
  ∃ r₀ media, r.Proceeds r₀ ∧
    (r₀.resolve request.assertion.handler request.url.text request.type media).1 = .ok d ∧
    (r₀.resolve request.assertion.handler request.url.text request.type media).2.Proceeds r'

namespace Loader

variable {l : Loader} {e : Event} {i : Nat} {request : ImportRequest} {d : Descriptor}

/-! ## Turns of imports -/

theorem resolver_receive_early (states : List ImportState) (d : Descriptor) (fetched : Fetched) :
    (l.receive i states request (some d) fetched).1.resolver = l.resolver.asked request fetched :=
  rfl

theorem resolver_receive_late (states : List ImportState) (fetched : Fetched) :
    (l.receive i states request none fetched).1.resolver =
      ((l.resolver.asked request fetched).resolve request.assertion.handler request.url.text request.type
        (Asset.mediaOf request.url fetched.contentType).1).2 := by
  unfold receive
  dsimp only
  split
  next d r hr => exact (congrArg Prod.snd hr).symm
  next e r hr => exact (congrArg Prod.snd hr).symm

theorem proceeds_receive (l : Loader) (i : Nat) (states : List ImportState) (request : ImportRequest)
    (early : Option Descriptor) (fetched : Fetched) :
    l.resolver.Proceeds (l.receive i states request early fetched).1.resolver := by
  have asked : l.resolver.Proceeds (l.resolver.asked request fetched) := Resolver.proceeds_supports ..
  cases early with
  | some d =>
    rw [resolver_receive_early]
    exact asked
  | none =>
    rw [resolver_receive_late]
    exact asked.trans (Resolver.comes_resolve ..).proceeds

theorem proceeds_fetchAsset (l : Loader) (i : Nat) (states : List ImportState) (request : ImportRequest)
    (early : Option Descriptor) (attempt : UInt32) :
    l.resolver.Proceeds (l.fetchAsset i states request early attempt).1.resolver := by
  unfold fetchAsset
  split
  · exact .refl _
  · dsimp only
    split
    next fetched _ =>
      exact proceeds_receive { l with feed := (l.feed.fetch request.url).2 } i states request early fetched
    next => split <;> exact .refl _

theorem proceeds_resolveHandler (l : Loader) (i : Nat) (states : List ImportState)
    (request : ImportRequest) : l.resolver.Proceeds (l.resolveHandler i states request).1.resolver := by
  have needed := Resolver.proceeds_needsMedia l.resolver request.assertion.handler request.type
  have resolved := (Resolver.comes_resolve
    (l.resolver.needsMedia request.assertion.handler request.type).2 request.assertion.handler
    request.url.text request.type (Media.ofExtension request.url)).proceeds
  unfold resolveHandler
  dsimp only
  split
  · exact needed.trans (proceeds_fetchAsset { l with resolver := _ } i _ request none 0)
  · split
    next d r hr =>
      rw [hr] at resolved
      exact (needed.trans resolved).trans
        (proceeds_fetchAsset { l with resolver := r } i _ request (some d) 0)
    next e r hr =>
      rw [hr] at resolved
      exact needed.trans resolved

theorem proceeds_approach (l : Loader) (i : Nat) : l.resolver.Proceeds (l.approach i).1.resolver := by
  unfold approach
  split
  · exact proceeds_resolveHandler ..
  · split
    · exact proceeds_fetchAsset ..
    · exact .refl _
  · exact .refl _

theorem finishImport_resolver (states : List ImportState) (result : Except ImportError Served) :
    (l.finishImport i states result).resolver = l.resolver := by
  cases result <;> rfl

/-- A turn of an import leaves the resolver where the way to the cache has led it. -/
theorem resolver_pollImport (l : Loader) (i : Nat) :
    (l.pollImport i).resolver = (l.approach i).1.resolver := by
  unfold pollImport
  split
  next states ticket hi =>
    rw [approach_of_computing hi]
    split
    · rw [finishImport_resolver]
    · rfl
  next =>
    split
    next l₀ d hr => rw [serve_resolver, hr]
    next l₀ hr => rw [hr]

/-- **A turn of an import leads the resolver on.** -/
theorem proceeds_pollImport (l : Loader) (i : Nat) : l.resolver.Proceeds (l.pollImport i).resolver := by
  rw [resolver_pollImport]
  exact proceeds_approach l i

/-! ## Where a descriptor is found -/

theorem resolves_of_findsByFetch (h : l.FindsByFetch request d) (states : List ImportState)
    (attempt : UInt32) :
    l.resolver.Resolves request d (l.fetchAsset i states request none attempt).1.resolver := by
  obtain ⟨hopen, fetched, hfetch, hfinds⟩ := h
  have hlate : (l.fetchAsset i states request none attempt).1.resolver =
      ((l.resolver.asked request fetched).resolve request.assertion.handler request.url.text request.type
        (Asset.mediaOf request.url fetched.contentType).1).2 := by
    unfold fetchAsset
    rw [if_neg (Bool.eq_false_iff.1 hopen)]
    dsimp only
    rw [hfetch]
    exact resolver_receive_late (l := { l with feed := (l.feed.fetch request.url).2 }) states fetched
  rw [hlate]
  exact ⟨_, _, Resolver.proceeds_supports .., hfinds, .refl _⟩

/-- **Where a turn of an import finds a descriptor, the resolver has resolved it on the way.** -/
theorem resolves_of_finds (h : l.Finds i request d) :
    l.resolver.Resolves request d (l.after (.pollImport i)).resolver := by
  show l.resolver.Resolves request d (l.pollImport i).resolver
  rw [resolver_pollImport]
  have needed := Resolver.proceeds_needsMedia l.resolver request.assertion.handler request.type
  cases h with
  | @early states begun needless found =>
    refine ⟨_, _, needed, found, ?_⟩
    unfold approach
    rw [begun]
    dsimp only
    unfold resolveHandler
    dsimp only
    rw [needless, if_neg (by decide)]
    split
    next d' r hr =>
      rw [hr]
      exact proceeds_fetchAsset { l with resolver := r } i _ request (some d') 0
    next e r hr =>
      rw [hr]
      exact .refl _
  | @atOnce states begun needless found =>
    have hfetch : (l.approach i).1 = (fetchAsset
        { l with resolver := (l.resolver.needsMedia request.assertion.handler request.type).2 } i
        (states ++ [ImportState.resolvingHandler] ++ [ImportState.loadingSource]) request none 0).1 := by
      unfold approach
      rw [begun]
      dsimp only
      unfold resolveHandler
      dsimp only
      rw [needless, if_pos rfl]
    obtain ⟨r₀, media, hr, hd, hlater⟩ := resolves_of_findsByFetch (i := i) found
      (states ++ [ImportState.resolvingHandler] ++ [ImportState.loadingSource]) 0
    exact ⟨r₀, media, needed.trans hr, hd, hfetch ▸ hlater⟩
  | @late states attempt till waited due found =>
    have hfetch : (l.approach i).1 = (l.fetchAsset i states request none attempt).1 := by
      unfold approach
      rw [waited]
      dsimp only
      rw [due, if_pos rfl]
    rw [hfetch]
    exact resolves_of_findsByFetch found states attempt

/-- **What is found takes the type of the request**, and was chosen from what the resolver had. -/
theorem chooses_of_finds (h : l.Finds i request d) :
    d.supports request.type = true ∧ l.resolver.Chooses request.type request.assertion.handler d := by
  obtain ⟨r₀, media, hr, hd, -⟩ := resolves_of_finds h
  have chosen := (Resolver.comes_resolve r₀ request.assertion.handler request.url.text request.type
    media).chosen d (by rw [hd]; rfl)
  exact ⟨Resolver.supports_of_resolve hd, chosen.of_proceeds hr⟩

/-- **What is found for a module is kept for its path.** -/
theorem kept_of_finds (h : l.Finds i request d) {path : String}
    (named : request.assertion.handler = .module path) :
    (l.after (.pollImport i)).resolver.memo.find? path = some d := by
  obtain ⟨r₀, media, -, hd, hlater⟩ := resolves_of_finds h
  have kept := (Resolver.comes_resolve r₀ request.assertion.handler request.url.text request.type
    media).kept d path (by rw [hd]; rfl) named
  exact hlater.keeps path d kept

/-! ## What an event does to the resolver -/

/-- **What an event does to the resolver.** -/
inductive Moves (r : Resolver) : Event → Resolver → Prop where
  | proceeds {e : Event} {r' : Resolver} (proceeds : r.Proceeds r') : Moves r e r'
  | define (types : List String) (handler : Handler) :
      Moves r (.define types handler) (r.define types handler).2
  | registerModule (path : String) (result : Except Failure HandlerModule) :
      Moves r (.registerModule path result) { r with modules := r.modules.register path result }
  | changeHost (host : NativeHost) : Moves r (.changeHost host) { r with native := r.native.withHost host }

theorem Moves.of_eq {r r' : Resolver} (h : r' = r) : Moves r e r' :=
  .proceeds (h ▸ .refl r)

/-- **No event takes back** what is kept for a path or what the host has answered. -/
theorem Moves.remembers {r r' : Resolver} (h : Moves r e r') : r.Remembers r' := by
  cases h with
  | proceeds proceeds => exact .of_proceeds proceeds
  | define types handler =>
    unfold Resolver.define
    split
    · exact ⟨fun _ _ hd => hd, fun _ _ ha => ha⟩
    · exact .refl r
  | registerModule path result => exact ⟨fun _ _ hd => hd, fun _ _ ha => ha⟩
  | changeHost host => exact ⟨fun _ _ hd => hd, fun _ _ ha => ha⟩

theorem startImport_resolver (l : Loader) (specifier : String) (referrer : Option Url) (a : Assertion)
    (bindings : Bindings) : (l.startImport specifier referrer a bindings).resolver = l.resolver := by
  rcases startImport_cases l specifier referrer a bindings with ⟨error, heq, -⟩ | ⟨request, -, heq⟩
  · rw [heq]
    rfl
  · rw [heq]
    rfl

theorem pollHandler_resolver (l : Loader) (c : Nat) : (l.pollHandler c).resolver = l.resolver := by
  unfold pollHandler
  split
  · split <;> rfl
  · rfl

theorem dropImport_resolver (l : Loader) (i : Nat) : (l.dropImport i).resolver = l.resolver := by
  unfold dropImport
  split <;> rfl

theorem moves_after (l : Loader) (e : Event) : Moves l.resolver e (l.after e).resolver := by
  cases e with
  | startImport specifier referrer a bindings =>
    exact .of_eq (startImport_resolver l specifier referrer a bindings)
  | submit request => exact .of_eq rfl
  | pollImport i => exact .proceeds (proceeds_pollImport l i)
  | pollComputation c => exact .of_eq (pollComputation_resolver l c).1
  | pollHandler c => exact .of_eq (pollHandler_resolver l c)
  | dropImport i => exact .of_eq (dropImport_resolver l i)
  | define types handler => exact .define types handler
  | registerModule path result => exact .registerModule path result
  | clear => exact .of_eq rfl
  | invalidate url => exact .of_eq rfl
  | changeFeed feed => exact .of_eq rfl
  | changeHost host => exact .changeHost host
  | openGate gate => exact .of_eq rfl
  | pass ms => exact .of_eq rfl

end Loader

end TypedImport
