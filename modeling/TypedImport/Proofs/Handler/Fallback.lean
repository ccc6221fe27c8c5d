import TypedImport.Handler.Builtin
import TypedImport.Proofs.Handler.Answers
import TypedImport.Proofs.Handler.Log
import TypedImport.Proofs.Handler.Waiting

/-!
# The fallback policy

Which handler an import gets, as a table of decisions. A handler that it names counts, and so does what the
path gives that it names; neither depends on defaults or host, nor is the host asked. If it names none, the
policy ranks the default of the type and the handler of the host (`Policy.choose`). Whatever is chosen must
take the type in the end, which a default always does (`Registry.InUse.supports_run`).

**The host** has a handler to offer where it supports the type for the media type and has a handler for the
type. It may have been asked before, by imports and for assets, and its first answers stand
(`NativeMemo.standing`). For a table that stays as it is these are its own. A host that tells spellings of a
media type apart may have been asked in another spelling first, and is then not taken at its word
(`refused_hasty`).
-/

namespace TypedImport

/-- A default takes the types that it was listed for. -/
theorem Descriptor.supports_registry (n : Nat) (handler : Handler) {listed : List String} {t : String}
    (h : t ∈ listed) : (Descriptor.registry n handler listed).supports t = true := by
  have taken : t ∈ (Descriptor.registry n handler listed).types :=
    (TypeSet.mem_foldl_insert listed handler.types).2 (.inl h)
  unfold supports TypeSet.admits
  rw [List.contains_iff_mem.2 taken, Bool.or_true]

/-- **A default takes the types that it is found under.** -/
theorem Registry.InUse.supports_run (events : List Registry.Event) {t : String} {d : Descriptor}
    (h : (run events).registry.forType? t = some d) : d.supports t = true := by
  rw [(follows_run events).default] at h
  obtain ⟨e, hlatest, rfl⟩ := Option.map_eq_some_iff.1 h
  have logged : e ∈ log events := List.mem_reverse.1 (List.mem_of_find?_eq_some hlatest)
  have lists : t ∈ e.types := by simpa using List.find?_some hlatest
  obtain ⟨n, hn, rfl⟩ := List.mem_mapIdx.1 logged
  exact Descriptor.supports_registry _ _ lists

/-- **What a policy makes of a default and a handler of the host**, as far as there are any. -/
def Policy.choose (policy : Policy) (default native : Option Descriptor) : Option Descriptor :=
  match policy with
  | .registryOnly => default
  | .nativeOnRegistryMiss => default.or native
  | .preferNative => native.or default

/-- A steady host is remembered as it is. -/
theorem NativeMemo.truthful_run {asked : List Event} (steady : Steady asked) (host : NativeHost) :
    (run host asked).Truthful := by
  intro type answer h
  have first := (remembered?_run host asked (.handlerFor type)).symm.trans h
  obtain ⟨q, -, same, rfl⟩ := exists_asked_of_firstAnswer steady first
  cases q with
  | supports type' media => cases same
  | handlerFor type' =>
    cases same
    rw [host_run, hostAfter_of_steady steady]
    rfl

namespace Resolver

variable {r : Resolver} {host : NativeHost} {asked : List NativeMemo.Event}
  {definitions : List Registry.Event} {reference : AssertedHandler} {url type media path : String}
  {d : Descriptor}

/-- **A resolver in use**: its registry has taken definitions, and it remembers what a host was asked. -/
structure InUse (r : Resolver) (definitions : List Registry.Event) (host : NativeHost)
    (asked : List NativeMemo.Event) : Prop where
  registry : r.registry = (Registry.InUse.run definitions).registry
  native : r.native = NativeMemo.run host asked

/-! ## Resolvers in use -/

/-- **A resolver goes on in use**: it may ask its host, and its registry stays. -/
structure Consults (r r' : Resolver) : Prop where
  registry : r'.registry = r.registry
  native : ∃ more, NativeMemo.Steady more ∧ r'.native = more.foldl NativeMemo.after r.native

theorem Consults.refl (r : Resolver) : Consults r r :=
  ⟨rfl, [], by simp [NativeMemo.Steady], rfl⟩

theorem Consults.trans {r r' r'' : Resolver} (h : Consults r r') (h' : Consults r' r'') : Consults r r'' := by
  obtain ⟨more, steady, hmore⟩ := h.native
  obtain ⟨more', steady', hmore'⟩ := h'.native
  refine ⟨h'.registry.trans h.registry, more ++ more', fun host hhost => ?_, ?_⟩
  · exact (List.mem_append.1 hhost).elim (steady host) (steady' host)
  · rw [hmore', hmore, List.foldl_append]

/-- A resolver whose host is asked a question. -/
theorem consults_ask (r : Resolver) (q : NativeQuestion) :
    Consults r { r with native := (r.native.ask q).2 } :=
  ⟨rfl, [.ask q], by simp [NativeMemo.Steady], rfl⟩

theorem consults_handler (r : Resolver) (type : String) :
    Consults r { r with native := (r.native.handler? type).2 } :=
  ⟨rfl, [.handler type], by simp [NativeMemo.Steady], rfl⟩

theorem consults_needsMedia (r : Resolver) (reference : AssertedHandler) (type : String) :
    Consults r (r.needsMedia reference type).2 := by
  unfold needsMedia
  split
  · exact consults_ask r (.handlerFor type)
  · exact .refl r

theorem consults_nativeChoice (r : Resolver) (type media : String) :
    Consults r (r.nativeChoice type media).2 := by
  have asked := consults_ask r (.supports type media)
  unfold nativeChoice
  dsimp only
  split
  · exact asked.trans (consults_handler _ type)
  · exact asked

theorem consults_choice (r : Resolver) (type media : String) : Consults r (r.choice type media).2 := by
  have native := consults_nativeChoice r type media
  unfold choice
  split
  next => exact .refl r
  next =>
    split
    · exact .refl r
    · exact native
  next =>
    split
    next d r' hr =>
      rw [hr] at native
      exact native
    next r' hr =>
      rw [hr] at native
      exact native

theorem consults_resolveDefault (r : Resolver) (url type media : String) :
    Consults r (r.resolveDefault url type media).2 := by
  have chosen := consults_choice r type media
  unfold resolveDefault
  split
  next d r' hr =>
    rw [hr] at chosen
    exact chosen
  next r' hr =>
    rw [hr] at chosen
    refine chosen.trans ?_
    dsimp only
    unfold missReason
    split
    · exact consults_ask r' (.handlerFor type)
    · exact .refl r'

/-- **What a path gives**: what is kept for it, or else what its module gives now. -/
def moduleGives (r : Resolver) (path : String) : Except ModuleFault Descriptor :=
  match r.memo.find? path with
  | some d => .ok d
  | none =>
    match (r.modules.instantiate path).1 with
    | .error failure => .error (.notInstantiated failure)
    | .ok m => m.verify.map fun made => .external r.memo.length path made.1 made.2

/-- **The handler that the host offers** for a type and a media type. -/
def hostOffer (host : NativeHost) (asked : List NativeMemo.Event) (type media : String) : Option Descriptor :=
  if NativeMemo.standing host asked (.supports type media) then (host.handlerFor type).map .native else none

theorem resolveModule_fst (r : Resolver) (path url type : String) :
    (r.resolveModule path url type).1 =
      match r.moduleGives path with
      | .ok d => .ok d
      | .error fault =>
        .error (.handlerResolution url type (some (HandlerId.derive .externalModule path))
          (.badModule path fault)) := by
  unfold resolveModule moduleGives
  cases hkept : r.memo.find? path with
  | some d => rfl
  | none =>
    dsimp only
    unfold settleModule ModuleMemo.settle
    cases (r.modules.instantiate path).1 with
    | error failure => rfl
    | ok m =>
      dsimp only
      cases m.verify with
      | error fault => rfl
      | ok made =>
        unfold ModuleMemo.keep
        rw [hkept]
        rfl

/-- Resolving a module leaves defaults and host alone. -/
theorem resolveModule_snd (r : Resolver) (path url type : String) :
    ∃ modules memo, (r.resolveModule path url type).2 = { r with modules := modules, memo := memo } := by
  unfold resolveModule
  split
  · exact ⟨r.modules, r.memo, rfl⟩
  · exact ⟨_, _, rfl⟩

theorem consults_resolve (r : Resolver) (reference : AssertedHandler) (url type media : String) :
    Consults r (r.resolve reference url type media).2 := by
  rw [resolve_snd]
  cases reference with
  | inline handler => exact .refl r
  | module path =>
    obtain ⟨modules, memo, hr⟩ := resolveModule_snd r path url type
    show Consults r (r.resolveModule path url type).2
    rw [hr]
    exact ⟨rfl, (Consults.refl r).native⟩
  | absent => exact consults_resolveDefault r url type media

/-- **A resolver stays in use** whatever handlers it resolves, with some questions more. -/
theorem InUse.consults {r' : Resolver} (inUse : r.InUse definitions host asked) (h : Consults r r') :
    ∃ more, NativeMemo.Steady more ∧ r'.InUse definitions host (asked ++ more) := by
  obtain ⟨more, steady, hmore⟩ := h.native
  refine ⟨more, steady, h.registry.trans inUse.registry, ?_⟩
  rw [hmore, inUse.native, NativeMemo.run, NativeMemo.run, List.foldl_append]

/-- It stays in use with a definition more. -/
theorem InUse.define (inUse : r.InUse definitions host asked) (types : List String) (handler : Handler) :
    (r.define types handler).2.InUse (definitions ++ [.define types handler]) host asked where
  registry := by
    rw [Registry.InUse.run_concat, Registry.InUse.after, ← inUse.registry]
    unfold Resolver.define
    cases r.registry.define types handler <;> simp [inUse.registry]
  native := by
    unfold Resolver.define
    split <;> exact inUse.native

/-! ## What the policy chooses -/

theorem choice_fst (r : Resolver) (type media : String) :
    (r.choice type media).1 = r.policy.choose (r.registry.forType? type) (r.nativeChoice type media).1 := by
  cases hpolicy : r.policy with
  | registryOnly => exact choice_of_not_letsHost (by simp [LetsHost, hpolicy]) media
  | preferNative => exact choice_of_letsHost (.inl hpolicy) media
  | nativeOnRegistryMiss =>
    cases hdefault : r.registry.forType? type with
    | none => rw [choice_of_letsHost (.inr ⟨hpolicy, hdefault⟩), hdefault, Option.or_none]; rfl
    | some d => rw [choice_of_not_letsHost (by simp [LetsHost, hpolicy, hdefault]), hdefault]; rfl

theorem nativeChoice_of_inUse (inUse : r.InUse definitions host asked) (steady : NativeMemo.Steady asked)
    (type media : String) : (r.nativeChoice type media).1 = hostOffer host asked type media := by
  have supported : (r.native.supports type media).1 =
      NativeMemo.standing host asked (.supports type media) := by
    rw [inUse.native]
    exact NativeMemo.ask_run host asked (.supports type media)
  have same : r.native.host = host := by
    rw [inUse.native, NativeMemo.host_run, NativeMemo.hostAfter_of_steady steady]
  rw [nativeChoice_fst, supported, same, hostOffer]

/-- **How a resolver decides which handler an import gets.** -/
structure Decides (r : Resolver) (host : NativeHost) (asked : List NativeMemo.Event) : Prop where
  /-- A handler that is named is taken if it takes the type. -/
  inline : ∀ handler url type media,
    r.resolve (.inline handler) url type media = (accepted url type (.inline handler), r)
  /-- So is what a path gives that is named; what is wrong with its module is the import's own error. -/
  module : ∀ path url type media, (r.resolve (.module path) url type media).1 =
    match r.moduleGives path with
    | .ok d => accepted url type d
    | .error fault =>
      .error (.handlerResolution url type (some (HandlerId.derive .externalModule path))
        (.badModule path fault))
  /-- Where a handler is named, defaults and host are left alone. -/
  untouched : ∀ reference url type media, reference ≠ .absent →
    ∃ modules memo, (r.resolve reference url type media).2 = { r with modules := modules, memo := memo }
  /-- They have no say there either. -/
  unasked : ∀ reference url type media registry native, reference ≠ .absent →
    ({ r with registry := registry, native := native }.resolve reference url type media).1 =
      (r.resolve reference url type media).1
  /-- Where none is named, the policy chooses between the default and what the host offers. -/
  absent : ∀ url type media, (r.resolve .absent url type media).1 =
    match r.policy.choose (r.registry.forType? type) (hostOffer host asked type media) with
    | some d => accepted url type d
    | none => .error (.handlerResolution url type none (r.missed type))
  /-- The host offers its handler where it supports the type for the media type, and it is enough for that
  if it has said so of each spelling of the media type that it was asked. -/
  supports : ∀ type media,
    (∀ media', .ask (.supports type media') ∈ asked → Text.lower media' = Text.lower media →
      host.supports type media' = host.supports type media) →
    hostOffer host asked type media =
      if host.supports type media then (host.handlerFor type).map .native else none
  /-- A table has said so. -/
  table : ∀ t : NativeTable, host = t.host → ∀ type media, hostOffer host asked type media =
    if t.supports type media then (t.handlerFor type).map .native else none
  /-- A default is never refused for a type that it is found under. -/
  default : ∀ url type d, r.registry.forType? type = some d → accepted url type d = .ok d

/-- **A resolver in use decides by its policy.** -/
theorem decides_of_steady (inUse : r.InUse definitions host asked) (steady : NativeMemo.Steady asked) :
    r.Decides host asked where
  inline handler url type media := rfl
  module path url type media := by
    rw [resolve_fst]
    show (r.resolveModule path url type).1.bind _ = _
    rw [resolveModule_fst]
    cases r.moduleGives path <;> rfl
  untouched reference url type media named := by
    rw [resolve_snd]
    cases reference with
    | inline handler => exact ⟨r.modules, r.memo, rfl⟩
    | module path => exact resolveModule_snd r path url type
    | absent => exact absurd rfl named
  unasked reference url type media registry native named := by
    rw [resolve_fst, resolve_fst]
    cases reference with
    | inline handler => rfl
    | module path =>
      show ((resolveModule _ path url type).1).bind _ = ((r.resolveModule path url type).1).bind _
      rw [resolveModule_fst, resolveModule_fst]
      rfl
    | absent => exact absurd rfl named
  absent url type media := by
    have truthful : r.native.Truthful := inUse.native ▸ NativeMemo.truthful_run steady host
    rw [resolve_fst]
    show ((r.resolveDefault url type media).1).bind _ = _
    rw [resolveDefault_fst truthful, choice_fst, nativeChoice_of_inUse inUse steady]
    cases r.policy.choose _ _ <;> rfl
  supports type media alike := by
    have stands : NativeMemo.standing host asked (.supports type media) = host.supports type media := by
      refine NativeMemo.standing_of_alike steady fun q hq same => ?_
      cases q with
      | supports type' media' =>
        obtain ⟨rfl, hmedia⟩ := NativeQuestion.supports.inj same
        exact alike media' hq hmedia
      | handlerFor type' => cases same
    rw [hostOffer, stands]
  table t htable type media := by
    subst htable
    rw [hostOffer, NativeMemo.standing_of_table steady]
    rfl
  default url type d found := by
    rw [inUse.registry] at found
    rw [accepted, if_pos (Registry.InUse.supports_run definitions found)]

/-! ## A table that is preferred -/

/-- The usual table, asked about JSON in two media types. -/
def askedOfUsual : List NativeMemo.Event :=
  [.ask (.supports "json" "TEXT/json"), .ask (.supports "json" "text/csv"), .handler "json"]

def usualHost : NativeHost :=
  (NativeTable.usual (Builtin.json.handler ⟨1⟩)).host

/-- A resolver that prefers the usual table to a default for JSON and one type more. -/
def preferring : Resolver where
  policy := .preferNative
  registry := (Registry.InUse.run [.define [" json", "txt "] (Builtin.text.handler ⟨2⟩)]).registry
  native := NativeMemo.run usualHost askedOfUsual

/-- The preferring resolver decides as `decides_of_steady` says: for the host where it takes the media type,
in any case, and for the default elsewhere. -/
theorem decides_preferring :
    preferring.InUse [.define [" json", "txt "] (Builtin.text.handler ⟨2⟩)] usualHost askedOfUsual ∧
      NativeMemo.Steady askedOfUsual ∧
      (preferring.resolve .absent "file:///a" "json" "text/JSON").1 =
        .ok (.native (Builtin.json.handler ⟨1⟩)) ∧
      (preferring.resolve .absent "file:///a" "json" "text/CSV").1 =
        .ok (.registry 0 (Builtin.text.handler ⟨2⟩) ["json", "txt"]) := by
  have inUse : preferring.InUse [.define [" json", "txt "] (Builtin.text.handler ⟨2⟩)] usualHost
      askedOfUsual := ⟨rfl, rfl⟩
  have steady : NativeMemo.Steady askedOfUsual := by
    intro host hhost
    simp [askedOfUsual] at hhost
  have decides := decides_of_steady inUse steady
  have taken : (NativeTable.usual (Builtin.json.handler ⟨1⟩)).supports "json" "text/JSON" = true := by
    decide +kernel
  have refused : (NativeTable.usual (Builtin.json.handler ⟨1⟩)).supports "json" "text/CSV" = false := by
    decide +kernel
  refine ⟨inUse, steady, ?_, ?_⟩
  · rw [decides.absent, decides.table _ rfl, taken]
    rfl
  · rw [decides.absent, decides.table _ rfl, refused]
    rfl

/-! ## A host that tells spellings apart -/

/-- A host that takes JSON in one spelling of its media type only. -/
def particularHost : NativeHost where
  supports type media := type == "json" && media == "text/json"
  handlerFor type := if type = "json" then some (Builtin.json.handler ⟨1⟩) else none

/-- It is asked in capitals. -/
def askedInCapitals : List NativeMemo.Event :=
  [.ask (.supports "json" "TEXT/JSON")]

/-- A resolver that prefers the host and has asked it in capitals. -/
def hasty : Resolver where
  policy := .preferNative
  native := NativeMemo.run particularHost askedInCapitals

/-- A table with a handler for JSON that does not take it. -/
def narrowTable : NativeTable :=
  ({} : NativeTable).insert "json" ["text/json"] ((Builtin.json.handler ⟨1⟩).withTypes ["csv"])

/-- A resolver that prefers this table. -/
def narrow : Resolver where
  policy := .preferNative
  native := NativeMemo.run narrowTable.host []

/-- **A host may support a type for a media type and have a handler, and the import gets none**, though the
host is preferred and says always the same: where it was asked before in another spelling, and where its
handler does not take the type. -/
theorem refused_hasty :
    hasty.InUse [] particularHost askedInCapitals ∧ NativeMemo.Steady askedInCapitals ∧
      particularHost.supports "json" "text/json" = true ∧
      particularHost.handlerFor "json" = some (Builtin.json.handler ⟨1⟩) ∧
      (hasty.resolve .absent "file:///a" "json" "text/json").1 =
        .error (.handlerResolution "file:///a" "json" none (.noHandler "json")) ∧
      narrow.InUse [] narrowTable.host [] ∧
      narrowTable.supports "json" "text/json" = true ∧
      narrowTable.handlerFor "json" = some ((Builtin.json.handler ⟨1⟩).withTypes ["csv"]) ∧
      (narrow.resolve .absent "file:///a" "json" "text/json").1 =
        .error (.handlerResolution "file:///a" "json" (some ⟨1⟩) (.unsupportedType "json" "json" ["csv"])) := by
  have steady : NativeMemo.Steady askedInCapitals := by
    intro host hhost
    simp [askedInCapitals] at hhost
  have supported : narrowTable.supports "json" "text/json" = true := by decide +kernel
  exact ⟨⟨rfl, rfl⟩, steady, by decide, rfl, rfl, ⟨rfl, rfl⟩, supported, rfl, rfl⟩

end Resolver

end TypedImport
