import TypedImport.Proofs.Handler.Waiting
import TypedImport.Proofs.Loader.Declared

/-!
# Resolving early and resolving late

A loader resolves the handler of an import before it fetches the asset if the choice need not wait for
the asset's media type. It then guesses the media type from the extension. The guess makes no
difference: the handler is the one that would be resolved for any other media type, then and as long as
no definition is made (`earlyAgrees_run`).

**What stays.** Whatever happens, a resolver keeps its policy and what it has made of modules; its host
stays the same in a run that is `Steady`, and so what is remembered of the host stays true
(`abides_run`). Only definitions change the defaults (`registry_run`).
-/

namespace TypedImport

namespace Loader

variable {l : Loader} {e : Event} {events meanwhile : List Event} {i : Nat} {request : ImportRequest}
  {d : Descriptor} {r r' r'' : Resolver}

/-! ## What stays -/

/-- **A run in which the host always gives the same answers.** -/
def Steady (l : Loader) (events : List Event) : Prop :=
  ∀ host, .changeHost host ∈ events → host = l.resolver.native.host

/-- **A resolver abides by an earlier one**: it has the same policy and the same host, of which it
remembers nothing false, and keeps for a path what the earlier one did. -/
structure Abides (r r' : Resolver) : Prop where
  policy : r'.policy = r.policy
  host : r'.native.host = r.native.host
  truthful : r.native.Truthful → r'.native.Truthful
  kept : ∀ path d, r.memo.find? path = some d → r'.memo.find? path = some d

theorem Abides.refl (r : Resolver) : Abides r r :=
  ⟨rfl, rfl, id, fun _ _ h => h⟩

theorem Abides.trans (h : Abides r r') (h' : Abides r' r'') : Abides r r'' where
  policy := h'.policy.trans h.policy
  host := h'.host.trans h.host
  truthful truthful := h'.truthful (h.truthful truthful)
  kept path d hd := h'.kept path d (h.kept path d hd)

theorem Moves.abides (h : Moves r e r') (steady : ∀ host, e = .changeHost host → host = r.native.host) :
    Abides r r' := by
  cases h with
  | proceeds proceeds =>
    exact ⟨proceeds.policy, proceeds.host, proceeds.truthful, proceeds.keeps⟩
  | define types handler =>
    unfold Resolver.define
    split
    · exact ⟨rfl, rfl, id, fun _ _ h => h⟩
    · exact .refl r
  | registerModule path result => exact ⟨rfl, rfl, id, fun _ _ h => h⟩
  | changeHost host =>
    have same := steady host rfl
    subst same
    exact ⟨rfl, rfl, id, fun _ _ h => h⟩

/-- Only a definition changes the defaults. -/
theorem Moves.registry_eq (h : Moves r e r') (undefined : ∀ types handler, e ≠ .define types handler) :
    r'.registry = r.registry := by
  cases h with
  | proceeds proceeds => exact proceeds.registry
  | define types handler => exact absurd rfl (undefined types handler)
  | registerModule path result => rfl
  | changeHost host => rfl

/-- **The resolver of a steady run abides by the first.** -/
theorem abides_run (steady : Steady l events) : Abides l.resolver (l.run events).resolver := by
  induction events using List.reverseRecOn with
  | nil => exact .refl l.resolver
  | append_singleton events e ih =>
    have abides := ih fun host hhost => steady host (List.mem_append_left _ hhost)
    rw [run_concat]
    apply abides.trans
    apply (moves_after (l.run events) e).abides
    intro host he
    rw [abides.host]
    exact steady host (by simp [he])

/-- **Without definitions the defaults stay.** -/
theorem registry_run (undefined : ∀ types handler, .define types handler ∉ events) :
    (l.run events).resolver.registry = l.resolver.registry := by
  induction events using List.reverseRecOn with
  | nil => rfl
  | append_singleton events e ih =>
    have before := ih fun types handler hmem => undefined types handler (List.mem_append_left _ hmem)
    rw [run_concat, ← before]
    apply (moves_after (l.run events) e).registry_eq
    intro types handler he
    exact undefined types handler (by simp [he])

/-- The run after a turn of an import. -/
theorem run_pollImport (l : Loader) (before meanwhile : List Event) (i : Nat) :
    l.run (before ++ .pollImport i :: meanwhile) =
      ((l.run before).after (.pollImport i)).run meanwhile := by
  rw [run_append]
  rfl

theorem Steady.left {later : List Event} (h : Steady l (events ++ later)) : Steady l events :=
  fun host hhost => h host (List.mem_append_left _ hhost)

/-- What comes later in a steady run is steady. -/
theorem Steady.later {before : List Event} (h : Steady l (before ++ .pollImport i :: meanwhile)) :
    Steady ((l.run before).after (.pollImport i)) meanwhile := by
  have split : before ++ .pollImport i :: meanwhile = (before ++ [.pollImport i]) ++ meanwhile := by simp
  rw [split] at h
  intro host hhost
  rw [← run_concat, (abides_run h.left).host]
  exact h host (List.mem_append_right _ hhost)

/-! ## Resolving early -/

/-- **An import is about to be resolved early**: it has had no turn, and the choice need not wait for
its asset; for the media type that the extension stands for it comes to a result. -/
structure ResolvesEarly (l : Loader) (i : Nat) (request : ImportRequest)
    (result : Except ImportError Descriptor) : Prop where
  begun : ∃ states, l.imports[i]? = some ⟨states, .begun request⟩
  needless : (l.resolver.needsMedia request.assertion.handler request.type).1 = false
  result : ((l.resolver.needsMedia request.assertion.handler request.type).2.resolve
    request.assertion.handler request.url.text request.type (Media.ofExtension request.url)).1 = result

theorem finds_of_resolvesEarly (h : l.ResolvesEarly i request (.ok d)) : l.Finds i request d := by
  obtain ⟨⟨states, begun⟩, needless, found⟩ := h
  exact .early begun needless found

/-- All that comes of a first turn in which no handler is resolved. -/
theorem approach_of_resolvesEarly_error {error : ImportError} {states : List ImportState}
    (h : l.ResolvesEarly i request (.error error)) (begun : l.imports[i]? = some ⟨states, .begun request⟩) :
    l.approach i = ({ l with
      resolver := ((l.resolver.needsMedia request.assertion.handler request.type).2.resolve
        request.assertion.handler request.url.text request.type (Media.ofExtension request.url)).2
      }.fail i (states ++ [ImportState.resolvingHandler]) error, none) := by
  have failed := h.result
  unfold approach
  rw [begun]
  dsimp only
  unfold resolveHandler
  dsimp only
  rw [h.needless, if_neg (by decide)]
  split
  next d r hr =>
    rw [hr] at failed
    cases failed
  next error' r hr =>
    rw [hr] at failed
    cases failed
    rw [hr]

/-- An import whose handler is not resolved ends in the first turn. -/
theorem after_of_resolvesEarly_error {error : ImportError} (h : l.ResolvesEarly i request (.error error)) :
    ∃ states, (l.after (.pollImport i)).imports[i]? = some ⟨states, .done (.error error)⟩ := by
  obtain ⟨states, begun⟩ := h.begun
  have inside := (List.getElem?_eq_some_iff.1 begun).1
  refine ⟨states ++ [ImportState.resolvingHandler] ++ [.failed], ?_⟩
  show (l.pollImport i).imports[i]? = _
  rw [pollImport_of_early begun trivial, approach_of_resolvesEarly_error h begun]
  simp [inside]

/-- **Resolving early agrees with resolving late**, in a run of a loader. -/
structure EarlyAgrees (l : Loader) (events : List Event) : Prop where
  /-- A choice that need not wait comes to one result, a descriptor or an error, for all media types. -/
  anyMedia : ∀ reference url type media media',
    ((l.run events).resolver.needsMedia reference type).1 = false →
      ((l.run events).resolver.resolve reference url type media).1 =
        ((l.run events).resolver.resolve reference url type media').1
  /-- It comes to that result when it is made once more, for another media type. -/
  onceMore : ∀ reference url type media media',
    ((l.run events).resolver.needsMedia reference type).1 = false →
      (((l.run events).resolver.resolve reference url type media).2.resolve reference url type media').1 =
        ((l.run events).resolver.resolve reference url type media).1
  /-- It is the result for whatever media type the asset has that an import is resolved to early. -/
  reported : ∀ before i request result later, events = before ++ .pollImport i :: later →
    (l.run before).ResolvesEarly i request result → ∀ media,
      ((l.run before).resolver.resolve request.assertion.handler request.url.text request.type media).1 =
        result
  /-- An import that is not resolved early, though it need not wait, ends there. -/
  refused : ∀ before i request error later, events = before ++ .pollImport i :: later →
    (l.run before).ResolvesEarly i request (.error error) →
      ∃ states, ((l.run before).after (.pollImport i)).imports[i]? = some ⟨states, .done (.error error)⟩
  /-- Where no definition is made meanwhile, the import would be resolved to the same later. -/
  lasting : ∀ before i request d meanwhile, events = before ++ .pollImport i :: meanwhile →
    (l.run before).ResolvesEarly i request (.ok d) →
    (∀ types handler, .define types handler ∉ meanwhile) → ∀ media,
      ((l.run events).resolver.resolve request.assertion.handler request.url.text request.type media).1 =
        .ok d
  /-- It asks the cache with that handler, whatever its asset is. -/
  served : ∀ before i request d later, events = before ++ .pollImport i :: later →
    (l.run before).ResolvesEarly i request (.ok d) → ∀ own, Asks l events i own → own.descriptor = d

theorem needless_of_needsMedia (truthful : l.resolver.native.Truthful) (steady : Steady l events)
    {reference : AssertedHandler} {type : String}
    (needless : ((l.run events).resolver.needsMedia reference type).1 = false) :
    (l.run events).resolver.Needless reference type :=
  (Resolver.needsMedia_eq_false_iff ((abides_run steady).truthful truthful)).1 needless

theorem result_of_resolvesEarly (truthful : l.resolver.native.Truthful) (steady : Steady l events)
    {result : Except ImportError Descriptor} (h : (l.run events).ResolvesEarly i request result)
    (media : String) :
    ((l.run events).resolver.resolve request.assertion.handler request.url.text request.type media).1 =
      result := by
  have needless := needless_of_needsMedia truthful steady h.needless
  rw [← h.result]
  exact (Resolver.resolve_eq_of_needless ((abides_run steady).truthful truthful) needless _ _ _).symm

theorem lasting_of_resolvesEarly (truthful : l.resolver.native.Truthful) {before : List Event}
    (steady : Steady l (before ++ .pollImport i :: meanwhile))
    (h : (l.run before).ResolvesEarly i request (.ok d))
    (undefined : ∀ types handler, .define types handler ∉ meanwhile) (media : String) :
    ((l.run (before ++ .pollImport i :: meanwhile)).resolver.resolve request.assertion.handler
      request.url.text request.type media).1 = .ok d := by
  have needless := needless_of_needsMedia truthful steady.left h.needless
  have found := result_of_resolvesEarly truthful steady.left h media
  have turn := proceeds_pollImport (l.run before) i
  have abides := abides_run steady.later
  rw [run_pollImport]
  apply Resolver.resolve_of_earlier needless found
  · rw [abides.policy]
    exact turn.policy
  · rw [registry_run undefined]
    exact turn.registry
  · rw [abides.host]
    exact turn.host
  · intro path named
    exact abides.kept path d (kept_of_finds (finds_of_resolvesEarly h) named)

theorem descriptor_of_resolvesEarly (hl : l.Fresh) {before later : List Event}
    (h : (l.run before).ResolvesEarly i request (.ok d)) {own : Demand}
    (asks : Asks l (before ++ .pollImport i :: later) i own) : own.descriptor = d := by
  obtain ⟨states, begun⟩ := h.begun
  have ordered : Ordered l before i request := ((traced_run hl before).stages i _ begun).1
  have resolved : Resolved l (before ++ .pollImport i :: later) i request d :=
    ⟨before, _, later, rfl, rfl, finds_of_resolvesEarly h⟩
  obtain ⟨other, fetched, hother, hresolved, -⟩ := (traced_run hl _).demands i own asks
  obtain rfl := ordered_unique hother (ordered.append _)
  exact ((hresolved d).1 resolved).symm

/-- **Resolving early agrees with resolving late**, in every run of every loader whose host gives the same
answers throughout. -/
theorem earlyAgrees_run (config : Config) (base : Option Url) (registry : Registry) (native : NativeMemo)
    (modules : ModuleTable) (feed : Feed) (truthful : native.Truthful) (events : List Event)
    (steady : Steady (build config base registry native modules feed) events) :
    EarlyAgrees (build config base registry native modules feed) events := by
  have hl := fresh_build config base registry native modules feed
  have true : (build config base registry native modules feed).resolver.native.Truthful := truthful
  refine ⟨?anyMedia, ?onceMore, ?reported, ?refused, ?lasting, ?served⟩
  case anyMedia =>
    intro reference url type media media' needless
    have truthful := (abides_run steady).truthful true
    have needless := needless_of_needsMedia true steady needless
    rw [← Resolver.resolve_eq_of_needless truthful needless url media media,
      Resolver.resolve_eq_of_needless truthful needless url media media']
  case onceMore =>
    intro reference url type media media' needless
    have truthful := (abides_run steady).truthful true
    exact Resolver.resolve_again truthful (needless_of_needsMedia true steady needless) url media media'
  case reported =>
    rintro before i request result later rfl early media
    exact result_of_resolvesEarly true steady.left early media
  case refused =>
    rintro before i request error later rfl early
    exact after_of_resolvesEarly_error early
  case lasting =>
    rintro before i request d meanwhile rfl early undefined media
    exact lasting_of_resolvesEarly true steady early undefined media
  case served =>
    rintro before i request d later rfl early own asks
    exact descriptor_of_resolvesEarly hl early asks

/-! ## A sheet that is held -/

/-- A host that supports every type for every media type, but has a handler for one other type only. -/
def boastful : NativeHost where
  supports _ _ := true
  handlerFor type := if type = "tsv" then some csvHandler else none

def heldLoader : Loader :=
  build { policy := .preferNative } none .empty { host := boastful } {}
    (.memory { assets := [(sheet.text, ⟨[], some "text/csv"⟩)] } [] [(sheet.text, "open")])

/-- A default is defined, and the sheet is imported while its fetch has to wait. -/
def heldSheet : List Event :=
  [.define ["csv"] csvHandler, .submit (sheetAs "csv" .absent), .pollImport 0, .openGate "open",
    .pollImport 0]

/-- The import of the held sheet is resolved early to the default. -/
theorem resolvesEarly_heldSheet :
    (heldLoader.run (heldSheet.take 2)).ResolvesEarly 0 (sheetAs "csv" .absent)
      (.ok (.registry 0 csvHandler ["csv"])) where
  begun := ⟨[.pending], rfl⟩
  needless := by decide +kernel
  result := rfl

/-- The import of the held sheet is as `earlyAgrees_run` says: the media type that comes with it changes
nothing. -/
theorem earlyAgrees_heldSheet :
    NativeMemo.Truthful { host := boastful } ∧ Steady heldLoader heldSheet ∧
      EarlyAgrees heldLoader heldSheet ∧
      ((heldLoader.run heldSheet).resolver.resolve .absent sheet.text "csv" "text/csv").1 =
        .ok (.registry 0 csvHandler ["csv"]) := by
  have truthful := NativeMemo.truthful_of_unasked boastful
  have steady : Steady heldLoader heldSheet := by
    intro host hhost
    simp [heldSheet] at hhost
  have agrees : EarlyAgrees heldLoader heldSheet := earlyAgrees_run _ _ _ _ _ _ truthful _ steady
  have undefined : ∀ types handler, .define types handler ∉ heldSheet.drop 3 := by simp [heldSheet]
  exact ⟨truthful, steady, agrees,
    agrees.lasting (heldSheet.take 2) 0 _ _ (heldSheet.drop 3) rfl resolvesEarly_heldSheet undefined _⟩

end Loader

end TypedImport
