import TypedImport.Proofs.Handler.Choice

/-!
# Where a resolved handler comes from

The descriptor that an import is given is of a handler that was made in the program and keeps its own
identity, or of a module, and then it is the one that is kept for the module's path. `Vouches` says this,
and `resolution_resolve` that it is true of every resolved handler.

**What is remembered.** Resolving a handler adds to what is kept for module paths and to the answers of the
host, and takes nothing back (`Remembers`). So the handler of a path stays the same for good, and so does
the host's answer about a type and a media type.
-/

namespace TypedImport

/-- A module has a handler as its default export. -/
def HandlerModule.Offers (m : HandlerModule) (handler : Handler) : Prop :=
  ∃ arity, m.get? defaultExport = some (.callable handler arity)

theorem HandlerModule.offers_of_verify {m : HandlerModule} {handler : Handler} {types : TypeSet}
    (h : m.verify = .ok (handler, types)) : m.Offers handler := by
  unfold verify at h
  split at h
  · cases h
  next handler' hh =>
    split at h
    · cases h
    next =>
      cases h
      unfold HandlerModule.handler at hh
      split at hh
      next arity hget =>
        split at hh
        · cases hh
          exact ⟨arity, hget⟩
        · cases hh
      · cases hh
      · cases hh

/-- An identity that a handler made in the program has: its highest bit is not set. -/
def HandlerId.IsNumber (id : HandlerId) : Prop :=
  id.raw < 0x8000000000000000

instance (id : HandlerId) : Decidable id.IsNumber :=
  inferInstanceAs (Decidable (id.raw < 0x8000000000000000))

/-- A derived identity is no number of a made handler. -/
theorem HandlerId.not_isNumber_derive (origin : Origin) (key : String) :
    ¬ (derive origin key).IsNumber := by
  unfold IsNumber derive
  rw [UInt64.not_lt, UInt64.le_iff_toNat_le, UInt64.toNat_or]
  exact Nat.right_le_or

/-- A descriptor of the module of a path: it has the identity of the path. -/
structure Descriptor.OfPath (d : Descriptor) (path : String) : Prop where
  id : d.id = HandlerId.derive .externalModule path
  path : d.modulePath = some path

namespace Resolver

variable {known : Handler → Prop} {r r' r'' : Resolver} {d : Descriptor}

/-- **The handlers that a resolver has are known**, and what it keeps for a path is of the path. -/
structure Known (known : Handler → Prop) (r : Resolver) : Prop where
  registry : ∀ t d, r.registry.forType? t = some d → known d.handler
  host : ∀ t h, r.native.host.handlerFor t = some h → known h
  modules : ∀ path m h, r.modules.modules.get? path = some (.ok m) → m.Offers h → known h
  memo : ∀ path d, r.memo.find? path = some d → d.OfPath path ∧ known d.handler

theorem Known.mono {known' : Handler → Prop} (h : Known known r) (more : ∀ h, known h → known' h) :
    Known known' r where
  registry t d hd := more _ (h.registry t d hd)
  host t handler hh := more _ (h.host t handler hh)
  modules path m handler hm ho := more _ (h.modules path m handler hm ho)
  memo path d hd := ⟨(h.memo path d hd).1, more _ (h.memo path d hd).2⟩

/-- **What vouches for a descriptor**: its handler is a known one, and either it has the handler's own
identity or it is kept for its path. -/
structure Vouches (known : Handler → Prop) (r : Resolver) (d : Descriptor) : Prop where
  source : known d.handler
  identity : d.id = d.handler.id ∨ ∃ path, d.OfPath path ∧ r.memo.find? path = some d

/-- **A later resolver remembers** all that an earlier one did. -/
structure Remembers (r r' : Resolver) : Prop where
  memo : ∀ path d, r.memo.find? path = some d → r'.memo.find? path = some d
  available : ∀ key answer, r.native.available.get? key = some answer →
    r'.native.available.get? key = some answer

theorem Remembers.refl (r : Resolver) : Remembers r r :=
  ⟨fun _ _ h => h, fun _ _ h => h⟩

theorem Remembers.trans (h : Remembers r r') (h' : Remembers r' r'') : Remembers r r'' :=
  ⟨fun path d hd => h'.memo path d (h.memo path d hd),
    fun key answer ha => h'.available key answer (h.available key answer ha)⟩

theorem Vouches.later (h : Vouches known r d) (hr : Remembers r r') {known' : Handler → Prop}
    (more : ∀ h, known h → known' h) : Vouches known' r' d := by
  refine ⟨more _ h.source, h.identity.imp_right ?_⟩
  rintro ⟨path, hpath, kept⟩
  exact ⟨path, hpath, hr.memo path d kept⟩

/-- **What resolving comes to**: nothing is forgotten, no unknown handler comes in, and what it finds is
vouched for. -/
structure Resolution (known : Handler → Prop) (r : Resolver) (found : Option Descriptor)
    (r' : Resolver) : Prop where
  remembers : Remembers r r'
  keeps : Known known r'
  vouched : ∀ d, found = some d → Vouches known r' d

theorem Remembers.of_proceeds (h : Proceeds r r') : Remembers r r' :=
  ⟨h.keeps, h.answers⟩

theorem Known.of_gives (h : Known known r) {path : String} (gives : r.Gives path d) :
    d.OfPath path ∧ known d.handler := by
  obtain ⟨n, m, handler, types, hm, hv, rfl⟩ := gives
  exact ⟨⟨rfl, rfl⟩, h.modules path m handler hm (HandlerModule.offers_of_verify hv)⟩

/-- **Resolving brings no unknown handler in.** -/
theorem Known.proceeds (h : Known known r) (hr : Proceeds r r') : Known known r' where
  registry := hr.registry ▸ h.registry
  host := hr.host ▸ h.host
  modules := hr.modules ▸ h.modules
  memo path d hd := by
    rcases hr.adds path d hd with hold | hgives
    · exact h.memo path d hold
    · exact h.of_gives hgives

theorem Known.vouches_kept (h : Known known r) {path : String} (hd : r.memo.find? path = some d) :
    Vouches known r d :=
  ⟨(h.memo path d hd).2, .inr ⟨path, (h.memo path d hd).1, hd⟩⟩

/-- **What a resolver comes to is vouched for.** -/
theorem resolution_of_comes (h : Known known r) {reference : AssertedHandler} {type : String}
    (inline : ∀ handler, reference = .inline handler → known handler) {found : Option Descriptor}
    (comes : Comes r type reference found r') : Resolution known r found r' where
  remembers := .of_proceeds comes.proceeds
  keeps := h.proceeds comes.proceeds
  vouched d hd := by
    have kept : ∀ path, reference = .module path → Vouches known r' d := fun path named =>
      (h.proceeds comes.proceeds).vouches_kept (comes.kept d path hd named)
    have chosen := comes.chosen d hd
    cases chosen with
    | inline handler => exact ⟨inline handler rfl, .inl rfl⟩
    | kept => exact kept _ rfl
    | made => exact kept _ rfl
    | default default => exact ⟨h.registry type d default, .inl (r.registry.identity type d default)⟩
    | native offered => exact ⟨h.host type _ offered, .inl rfl⟩

theorem resolution_of_proceeds (h : Known known r) (hr : Proceeds r r') : Resolution known r none r' where
  remembers := .of_proceeds hr
  keeps := h.proceeds hr
  vouched d hd := by cases hd

/-- **What vouches for the handler of an import.** -/
theorem resolution_resolve (h : Known known r) {reference : AssertedHandler}
    (inline : ∀ handler, reference = .inline handler → known handler) (url type media : String) :
    Resolution known r (found (r.resolve reference url type media).1)
      (r.resolve reference url type media).2 :=
  resolution_of_comes h inline (comes_resolve ..)

/-- **A module that has come brings its handler in**, unless one is kept for its path. -/
theorem resolution_settleModule (h : Known known r) (path url type : String)
    {result : Except Failure HandlerModule}
    (offered : ∀ m handler, result = .ok m → m.Offers handler → known handler) :
    Resolution known r (found (r.settleModule path url type result).1)
      (r.settleModule path url type result).2 := by
  rcases settleModule_cases r path url type result with ⟨error, heq⟩ | ⟨m, handler, types, hm, hv, heq⟩
  · rw [heq]
    exact resolution_of_proceeds h (.refl r)
  · rw [heq]
    have kept : ModuleMemo.find? (r.memo.keep path handler types).2 path =
        some (r.memo.keep path handler types).1 := by
      rw [find?_keep, if_pos rfl]
    have keeps : Known known { r with memo := (r.memo.keep path handler types).2 } := by
      refine ⟨h.registry, h.host, h.modules, fun other d hd => ?_⟩
      change (r.memo.keep path handler types).2.find? other = some d at hd
      rw [find?_keep] at hd
      split at hd
      next hpath =>
        cases hd
        cases hold : r.memo.find? path with
        | some d =>
          rw [keep_of_find? hold, hpath]
          exact h.memo path d hold
        | none =>
          unfold ModuleMemo.keep
          rw [hold, hpath]
          exact ⟨⟨rfl, rfl⟩, offered m handler hm (HandlerModule.offers_of_verify hv)⟩
      next => exact h.memo other d hd
    refine ⟨⟨fun other d hd => find?_keep_of_some hd handler types, fun _ _ ha => ha⟩, keeps,
      fun d hd => ?_⟩
    cases hd
    exact keeps.vouches_kept kept

end Resolver

end TypedImport
