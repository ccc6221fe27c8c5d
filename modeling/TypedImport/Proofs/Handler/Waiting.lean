import TypedImport.Proofs.Handler.Choice

/-!
# Which choices wait for the media type

The media type of an asset has a say only where an import names no handler, the policy lets the host
come in for the type, and the host has a handler for it. Otherwise the choice is `Needless`, and this is
what `needsMedia` tells (`needsMedia_eq_false_iff`), as long as what is remembered of the host is true.

**Two ways to the same choice.** `needsMedia` reads the policy on its own and asks whether the host
*has* a handler; the choice asks whether the host *supports* the type for the media type, of which a
handler for the type need not come. What is chosen depends on both answers (`choice_of_letsHost`,
`nativeChoice_fst`), so a needless choice is one and the same for all media types
(`resolve_eq_of_needless`) and stays the same as long as policy, defaults and host do
(`resolve_of_earlier`).
-/

namespace TypedImport

namespace NativeMemo

variable {c : NativeMemo}

/-- **What is remembered of the handlers of a host is true of the host.** -/
def Truthful (c : NativeMemo) : Prop :=
  ∀ type answer, c.offered.get? type = some answer → answer = (c.host.handlerFor type).isSome

/-- Nothing is remembered before the host is asked. -/
theorem truthful_of_unasked (host : NativeHost) : Truthful { host } := by
  intro type answer h
  cases h

theorem Truthful.offers_fst (h : c.Truthful) (type : String) :
    (c.offers type).1 = (c.host.handlerFor type).isSome := by
  unfold offers
  split
  next answer hanswer => exact h type answer hanswer
  next => rfl

theorem supports_fst_of_remembered {type media : String} {answer : Bool}
    (h : c.available.get? (type, Text.lower media) = some answer) : (c.supports type media).1 = answer := by
  unfold supports
  dsimp only
  rw [h]

/-- **Asked once more, a host answers the same.** -/
theorem supports_again (c : NativeMemo) (type media : String) :
    ((c.supports type media).2.supports type media).1 = (c.supports type media).1 :=
  supports_fst_of_remembered (get?_available_supports type media)

end NativeMemo

/-- What a path gives depends on the modules alone, not on how many were made. -/
theorem ModuleTable.instantiate_fst {table table' : ModuleTable} (h : table'.modules = table.modules)
    (path : String) : (table'.instantiate path).1 = (table.instantiate path).1 := by
  unfold instantiate
  rw [h]
  split <;> rfl

namespace Resolver

variable {r r' : Resolver} {d : Descriptor} {reference : AssertedHandler} {url type media media' : String}

theorem Proceeds.truthful (h : Proceeds r r') (truthful : r.native.Truthful) : r'.native.Truthful := by
  intro type answer hanswer
  rw [h.host]
  rcases h.offers type answer hanswer with hold | hnew
  · exact truthful type answer hold
  · exact hnew

/-! ## Where the host comes in -/

/-- **The policy lets the host come in** for a type: it prefers the host, or the type has no default. -/
def LetsHost (r : Resolver) (type : String) : Prop :=
  r.policy = .preferNative ∨ r.policy = .nativeOnRegistryMiss ∧ r.registry.forType? type = none

instance (r : Resolver) (type : String) : Decidable (r.LetsHost type) :=
  inferInstanceAs (Decidable (_ ∨ _ ∧ _ = none))

/-- **A choice hangs on no media type**: the import names its handler, the policy keeps the host out, or
the host has no handler for the type. -/
def Needless (r : Resolver) (reference : AssertedHandler) (type : String) : Prop :=
  reference = .absent → r.LetsHost type → r.native.host.handlerFor type = none

theorem letsHost_congr (policy : r'.policy = r.policy) (registry : r'.registry = r.registry) :
    r'.LetsHost type ↔ r.LetsHost type := by
  unfold LetsHost
  rw [policy, registry]

/-- What a choice hangs on is policy, defaults and host. -/
theorem needless_congr (policy : r'.policy = r.policy) (registry : r'.registry = r.registry)
    (host : r'.native.host = r.native.host) :
    r'.Needless reference type ↔ r.Needless reference type := by
  unfold Needless
  rw [letsHost_congr policy registry, host]

/-- **A choice need not wait for the media type just when it hangs on none.** -/
theorem needsMedia_eq_false_iff (truthful : r.native.Truthful) :
    (r.needsMedia reference type).1 = false ↔ r.Needless reference type := by
  cases reference with
  | inline handler => simp [needsMedia, Needless]
  | module path => simp [needsMedia, Needless]
  | absent =>
    have offered := truthful.offers_fst type
    unfold needsMedia Needless LetsHost
    dsimp only
    rw [offered]
    cases r.policy <;> cases r.native.host.handlerFor type <;> cases r.registry.forType? type <;> simp

/-- What a host gives for a type and a media type: a handler, if it supports them and has one. -/
theorem nativeChoice_fst (r : Resolver) (type media : String) :
    (r.nativeChoice type media).1 =
      if (r.native.supports type media).1 then (r.native.host.handlerFor type).map .native else none := by
  unfold nativeChoice
  dsimp only
  split
  · rw [← NativeMemo.supports_host type media]
    rfl
  · rfl

/-- **Where the policy lets the host come in, its handler comes before the default.** -/
theorem choice_of_letsHost (h : r.LetsHost type) (media : String) :
    (r.choice type media).1 = (r.nativeChoice type media).1.or (r.registry.forType? type) := by
  have kept : (r.nativeChoice type media).2.registry = r.registry :=
    (comes_nativeChoice r type media).proceeds.registry
  unfold choice
  rcases h with hprefers | ⟨hmisses, hmiss⟩
  · rw [hprefers]
    dsimp only
    split
    next d r' hr => rw [hr, Option.some_or]
    next r' hr =>
      rw [hr] at kept ⊢
      rw [Option.none_or, ← kept]
  · rw [hmisses, hmiss, Option.or_none]

/-- **Elsewhere there is only the default.** -/
theorem choice_of_not_letsHost (h : ¬ r.LetsHost type) (media : String) :
    (r.choice type media).1 = r.registry.forType? type := by
  unfold LetsHost at h
  unfold choice
  cases hpolicy : r.policy with
  | registryOnly => rfl
  | preferNative => exact absurd (.inl hpolicy) h
  | nativeOnRegistryMiss =>
    cases hdefault : r.registry.forType? type with
    | some d => rfl
    | none => exact absurd (.inr ⟨hpolicy, hdefault⟩) h

/-- **A choice that hangs on no media type comes to the default.** -/
theorem choice_of_needless (needless : r.Needless .absent type) (media : String) :
    (r.choice type media).1 = r.registry.forType? type := by
  by_cases hlets : r.LetsHost type
  · have none : (r.nativeChoice type media).1 = none := by
      rw [nativeChoice_fst, needless rfl hlets]
      simp
    rw [choice_of_letsHost hlets, none, Option.none_or]
  · exact choice_of_not_letsHost hlets media

/-! ## What a choice comes to -/

/-- Why there is no handler for a type. -/
def missed (r : Resolver) (type : String) : ResolutionFault :=
  if r.policy = .registryOnly ∧ (r.native.host.handlerFor type).isSome then .nativeNotAsked type r.policy
  else .noHandler type

theorem missReason_fst (truthful : r.native.Truthful) (type : String) :
    (r.missReason type).1 = r.missed type := by
  unfold missReason missed
  cases hpolicy : r.policy with
  | registryOnly => simp [truthful.offers_fst]
  | nativeOnRegistryMiss => simp
  | preferNative => simp

theorem resolveDefault_fst (truthful : r.native.Truthful) (url type media : String) :
    (r.resolveDefault url type media).1 =
      match (r.choice type media).1 with
      | some d => .ok d
      | none => .error (.handlerResolution url type none (r.missed type)) := by
  have proceeds := (comes_choice r type media).proceeds
  unfold resolveDefault
  split
  next d r' hr => rw [hr]
  next r' hr =>
    rw [hr] at proceeds ⊢
    have same : r'.missed type = r.missed type := by
      unfold missed
      rw [proceeds.policy, proceeds.host]
    dsimp only
    rw [missReason_fst (proceeds.truthful truthful), same]

/-- A default is resolved to what the policy chooses. -/
theorem resolveDefault_eq_ok_iff :
    (r.resolveDefault url type media).1 = .ok d ↔ (r.choice type media).1 = some d := by
  unfold resolveDefault
  split
  next d' r' hr => simp [hr]
  next r' hr => simp [hr]

theorem resolve_fst (r : Resolver) (reference : AssertedHandler) (url type media : String) :
    (r.resolve reference url type media).1 =
      (r.candidate reference url type media).1.bind (accepted url type) := by
  unfold resolve
  split
  next d r' hr =>
    rw [hr]
    rfl
  next e r' hr =>
    rw [hr]
    rfl

theorem resolve_snd (r : Resolver) (reference : AssertedHandler) (url type media : String) :
    (r.resolve reference url type media).2 = (r.candidate reference url type media).2 := by
  unfold resolve
  split <;> next h => rw [h]

/-- **A handler is resolved just when it is chosen and takes the type.** -/
theorem resolve_eq_ok_iff :
    (r.resolve reference url type media).1 = .ok d ↔
      (r.candidate reference url type media).1 = .ok d ∧ d.supports type = true := by
  rw [resolve_fst]
  cases (r.candidate reference url type media).1 with
  | error e => simp [Except.bind]
  | ok d' =>
    show accepted url type d' = .ok d ↔ _
    unfold accepted
    constructor
    · intro h
      split at h
      next hsupports =>
        cases h
        exact ⟨rfl, hsupports⟩
      next => cases h
    · rintro ⟨hsame, hsupports⟩
      cases hsame
      rw [if_pos hsupports]

/-! ## Early and late -/

/-- A needless choice among default and host is the same however far the resolver has been led. -/
theorem resolveDefault_congr (truthful : r.native.Truthful) (needless : r.Needless .absent type)
    (proceeds : Proceeds r r') (url media media' : String) :
    (r'.resolveDefault url type media).1 = (r.resolveDefault url type media').1 := by
  have still : r'.Needless .absent type :=
    (needless_congr proceeds.policy proceeds.registry proceeds.host).2 needless
  have missed : r'.missed type = r.missed type := by
    unfold Resolver.missed
    rw [proceeds.policy, proceeds.host]
  rw [resolveDefault_fst (proceeds.truthful truthful), resolveDefault_fst truthful,
    choice_of_needless still, choice_of_needless needless, proceeds.registry, missed]

/-- **A needless choice is the same for all media types**, and it makes no difference whether the host
has been asked meanwhile. -/
theorem resolve_eq_of_needless (truthful : r.native.Truthful) (needless : r.Needless reference type)
    (url media media' : String) :
    ((r.needsMedia reference type).2.resolve reference url type media).1 =
      (r.resolve reference url type media').1 := by
  cases reference with
  | inline handler => rfl
  | module path => rfl
  | absent =>
    have asked := proceeds_needsMedia r .absent type
    rw [resolve_fst, resolve_fst]
    exact congrArg (Except.bind · _) (resolveDefault_congr truthful needless asked url media media')

/-- Resolving the handler of a module once more comes to the same. -/
theorem resolveModule_again (r : Resolver) (path url type : String) :
    ((r.resolveModule path url type).2.resolveModule path url type).1 =
      (r.resolveModule path url type).1 := by
  cases hkept : r.memo.find? path with
  | some d =>
    have once : r.resolveModule path url type = (.ok d, r) := by
      unfold resolveModule
      rw [hkept]
    rw [once, once]
  | none =>
    let made : Resolver := { r with modules := (r.modules.instantiate path).2 }
    have once : r.resolveModule path url type =
        made.settleModule path url type (r.modules.instantiate path).1 := by
      unfold resolveModule
      rw [hkept]
    rw [once]
    rcases settleModule_cases made path url type (r.modules.instantiate path).1 with
      ⟨error, heq⟩ | ⟨m, handler, types, hm, hv, heq⟩
    · -- the module is made anew, from the same table
      have same := ModuleTable.instantiate_fst (ModuleTable.instantiate_modules r.modules path) path
      have twice : (made.resolveModule path url type).1 =
          (made.settleModule path url type (r.modules.instantiate path).1).1 := by
        unfold resolveModule
        rw [show made.memo.find? path = none from hkept, ← same]
        rfl
      have stays : (made.settleModule path url type (r.modules.instantiate path).1).2 = made := by
        rw [heq]
      rw [stays]
      exact twice
    · rw [heq]
      unfold resolveModule
      rw [find?_keep, if_pos rfl]

/-- **A needless choice that is made once more is the same**, for any media type. -/
theorem resolve_again (truthful : r.native.Truthful) (needless : r.Needless reference type)
    (url media media' : String) :
    ((r.resolve reference url type media).2.resolve reference url type media').1 =
      (r.resolve reference url type media).1 := by
  have after : (r.resolve reference url type media).2 = (r.candidate reference url type media).2 := by
    unfold resolve
    split <;> next hr => rw [hr]
  have proceeds := (comes_candidate r reference url type media).proceeds
  rw [after, resolve_fst, resolve_fst]
  apply congrArg (Except.bind · _)
  cases reference with
  | inline handler => rfl
  | module path => exact resolveModule_again r path url type
  | absent =>
    show ((r.resolveDefault url type media).2.resolveDefault url type media').1 = _
    exact resolveDefault_congr truthful needless proceeds url media' media

/-- **What was resolved without need for a media type is resolved again later, for any media type**, as
long as policy, defaults and host stay and what a module came to is kept. -/
theorem resolve_of_earlier (needless : r.Needless reference type)
    (found : (r.resolve reference url type media).1 = .ok d) (policy : r'.policy = r.policy)
    (registry : r'.registry = r.registry) (host : r'.native.host = r.native.host)
    (kept : ∀ path, reference = .module path → r'.memo.find? path = some d) (media' : String) :
    (r'.resolve reference url type media').1 = .ok d := by
  obtain ⟨candidate, supports⟩ := resolve_eq_ok_iff.1 found
  refine resolve_eq_ok_iff.2 ⟨?_, supports⟩
  cases reference with
  | inline handler => exact candidate
  | module path =>
    show (r'.resolveModule path url type).1 = .ok d
    unfold resolveModule
    rw [kept path rfl]
  | absent =>
    have still : r'.Needless .absent type := (needless_congr policy registry host).2 needless
    have chosen := resolveDefault_eq_ok_iff.1 candidate
    rw [choice_of_needless needless] at chosen
    apply resolveDefault_eq_ok_iff.2
    rw [choice_of_needless still, registry, chosen]

end Resolver

end TypedImport
