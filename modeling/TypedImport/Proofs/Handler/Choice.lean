import TypedImport.Handler.Resolver

/-!
# Which handler is chosen

A resolved handler is the one that was named, the one that is kept for the path that was named or that its
module gives now, the default of the type, or one of the host. `Chooses` lists these; a handler is resolved
only if it is among them and takes the type (`comes_resolve`, `supports_of_resolve`).

**Meanwhile.** Resolving a handler asks the host and may make a module. It leaves alone what handlers are
chosen from, forgets no answer of the host, and keeps for a path what the first good module gives, for good
(`Proceeds`).
-/

namespace TypedImport

namespace NativeMemo

variable {c : NativeMemo}

theorem get?_available_supports (type media : String) :
    (c.supports type media).2.available.get? (type, Text.lower media) =
      some (c.supports type media).1 := by
  unfold supports
  dsimp only
  split
  next answer h => exact h
  next h => exact Table.get?_put_self ..

theorem get?_available_of_supports {key : String × String} {answer : Bool}
    (h : c.available.get? key = some answer) (type media : String) :
    (c.supports type media).2.available.get? key = some answer := by
  unfold supports
  dsimp only
  split
  next => exact h
  next hnone =>
    show (c.available.put _ _).get? key = _
    rw [Table.get?_put, if_neg, h]
    rintro rfl
    rw [hnone] at h
    cases h

@[simp] theorem supports_host (type media : String) : (c.supports type media).2.host = c.host := by
  unfold supports
  dsimp only
  split <;> rfl

@[simp] theorem offers_host (type : String) : (c.offers type).2.host = c.host := by
  unfold offers
  split <;> rfl

@[simp] theorem offers_available (type : String) : (c.offers type).2.available = c.available := by
  unfold offers
  split <;> rfl

@[simp] theorem supports_offered (type media : String) :
    (c.supports type media).2.offered = c.offered := by
  unfold supports
  dsimp only
  split <;> rfl

theorem get?_offered_offers {type other : String} {answer : Bool}
    (h : (c.offers type).2.offered.get? other = some answer) :
    c.offered.get? other = some answer ∨ answer = (c.host.handlerFor other).isSome := by
  unfold offers at h
  split at h
  next => exact .inl h
  next =>
    change (c.offered.put type (c.host.handlerFor type).isSome).get? other = some answer at h
    rw [Table.get?_put] at h
    split at h
    next hother =>
      cases h
      exact .inr (by rw [hother])
    next => exact .inl h

end NativeMemo

theorem ModuleTable.get?_of_instantiate {table : ModuleTable} {path : String} {m : HandlerModule}
    (h : (table.instantiate path).1 = .ok m) : table.modules.get? path = some (.ok m) := by
  unfold instantiate at h
  split at h
  · cases h
  · cases h
  next m' hm =>
    cases h
    exact hm

theorem ModuleTable.instantiate_modules (table : ModuleTable) (path : String) :
    (table.instantiate path).2.modules = table.modules := by
  unfold instantiate
  split <;> rfl

namespace Resolver

variable {r r' r'' : Resolver} {d : Descriptor} {url type media : String} {reference : AssertedHandler}

/-- A module of the resolver gives a descriptor for its path. -/
def Gives (r : Resolver) (path : String) (d : Descriptor) : Prop :=
  ∃ n m handler types, r.modules.modules.get? path = some (.ok m) ∧ m.verify = .ok (handler, types) ∧
    d = .external n path handler types

/-- **A resolver chooses a descriptor** for what an import says of its handler and for its type. -/
inductive Chooses (r : Resolver) (type : String) : AssertedHandler → Descriptor → Prop where
  | inline (handler : Handler) : Chooses r type (.inline handler) (.inline handler)
  /-- What is kept for the path. -/
  | kept {path : String} {d : Descriptor} (kept : r.memo.find? path = some d) :
      Chooses r type (.module path) d
  /-- What the module of the path gives, if nothing is kept. -/
  | made {path : String} {d : Descriptor} (missing : r.memo.find? path = none) (gives : r.Gives path d) :
      Chooses r type (.module path) d
  | default {d : Descriptor} (default : r.registry.forType? type = some d) : Chooses r type .absent d
  | native {handler : Handler} (offered : r.native.host.handlerFor type = some handler) :
      Chooses r type .absent (.native handler)

/-- **What stays and what comes while handlers are resolved.** -/
structure Proceeds (r r' : Resolver) : Prop where
  policy : r'.policy = r.policy
  registry : r'.registry = r.registry
  host : r'.native.host = r.native.host
  modules : r'.modules.modules = r.modules.modules
  keeps : ∀ path d, r.memo.find? path = some d → r'.memo.find? path = some d
  adds : ∀ path d, r'.memo.find? path = some d → r.memo.find? path = some d ∨ r.Gives path d
  answers : ∀ key answer, r.native.available.get? key = some answer →
    r'.native.available.get? key = some answer
  offers : ∀ type answer, r'.native.offered.get? type = some answer →
    r.native.offered.get? type = some answer ∨ answer = (r.native.host.handlerFor type).isSome

theorem Proceeds.refl (r : Resolver) : Proceeds r r :=
  ⟨rfl, rfl, rfl, rfl, fun _ _ h => h, fun _ _ h => .inl h, fun _ _ h => h, fun _ _ h => .inl h⟩

/-- A resolver that has asked the host. -/
theorem Proceeds.asked {native : NativeMemo} (hhost : native.host = r.native.host)
    (answers : ∀ key answer, r.native.available.get? key = some answer →
      native.available.get? key = some answer)
    (offers : ∀ type answer, native.offered.get? type = some answer →
      r.native.offered.get? type = some answer ∨ answer = (r.native.host.handlerFor type).isSome) :
    Proceeds r { r with native := native } :=
  ⟨rfl, rfl, hhost, rfl, fun _ _ h => h, fun _ _ h => .inl h, answers, offers⟩

theorem Gives.of_proceeds (h : Proceeds r r') {path : String} (hg : r'.Gives path d) : r.Gives path d := by
  obtain ⟨n, m, handler, types, hm, hv, hd⟩ := hg
  exact ⟨n, m, handler, types, h.modules ▸ hm, hv, hd⟩

theorem Proceeds.trans (h : Proceeds r r') (h' : Proceeds r' r'') : Proceeds r r'' where
  policy := h'.policy.trans h.policy
  registry := h'.registry.trans h.registry
  host := h'.host.trans h.host
  modules := h'.modules.trans h.modules
  keeps path d hd := h'.keeps path d (h.keeps path d hd)
  adds path d hd := by
    rcases h'.adds path d hd with hold | hnew
    · exact h.adds path d hold
    · exact .inr (hnew.of_proceeds h)
  answers key answer ha := h'.answers key answer (h.answers key answer ha)
  offers type answer ho := by
    rcases h'.offers type answer ho with hold | hnew
    · exact h.offers type answer hold
    · exact .inr (h.host ▸ hnew)

theorem Chooses.of_proceeds (h : Proceeds r r') (hd : r'.Chooses type reference d) :
    r.Chooses type reference d := by
  cases hd with
  | inline handler => exact .inline handler
  | @kept path d kept =>
    cases hkept : r.memo.find? path with
    | some d' =>
      have same := h.keeps path d' hkept
      rw [kept] at same
      cases same
      exact .kept hkept
    | none =>
      rcases h.adds path d kept with hold | hgives
      · exact .kept hold
      · exact .made hkept hgives
  | @made path d missing gives =>
    refine .made ?_ (gives.of_proceeds h)
    cases hkept : r.memo.find? path with
    | none => rfl
    | some d' =>
      rw [h.keeps path d' hkept] at missing
      cases missing
  | default default => exact .default (h.registry ▸ default)
  | native offered => exact .native (h.host ▸ offered)

/-! ## Resolving -/

/-- What an attempt to resolve has found. -/
def found : Except ImportError Descriptor → Option Descriptor
  | .ok d => some d
  | .error _ => none

/-- **A resolver comes to a descriptor**, or to none, and goes on as another. -/
structure Comes (r : Resolver) (type : String) (reference : AssertedHandler) (found : Option Descriptor)
    (r' : Resolver) : Prop where
  proceeds : Proceeds r r'
  chosen : ∀ d, found = some d → r.Chooses type reference d
  /-- What a module is resolved to is kept for its path. -/
  kept : ∀ d path, found = some d → reference = .module path → r'.memo.find? path = some d

theorem Comes.none_of (h : Proceeds r r') : Comes r type reference none r' where
  proceeds := h
  chosen d hd := by cases hd
  kept d path hd := by cases hd

theorem Comes.of_absent {found : Option Descriptor} (h : Proceeds r r')
    (chosen : ∀ d, found = some d → r.Chooses type .absent d) : Comes r type .absent found r' where
  proceeds := h
  chosen := chosen
  kept d path _ hpath := by cases hpath

theorem Comes.after {found : Option Descriptor} (h : Comes r' type reference found r'')
    (hr : Proceeds r r') : Comes r type reference found r'' where
  proceeds := hr.trans h.proceeds
  chosen d hd := (h.chosen d hd).of_proceeds hr
  kept := h.kept

theorem proceeds_supports (r : Resolver) (type media : String) :
    Proceeds r { r with native := (r.native.supports type media).2 } :=
  .asked (NativeMemo.supports_host ..)
    (fun _ _ ha => NativeMemo.get?_available_of_supports ha type media)
    fun _ _ ho => .inl (by rw [← ho, NativeMemo.supports_offered])

theorem proceeds_offers (r : Resolver) (type : String) :
    Proceeds r { r with native := (r.native.offers type).2 } := by
  refine .asked (NativeMemo.offers_host ..) (fun key answer ha => ?_)
    fun _ _ ho => NativeMemo.get?_offered_offers ho
  rw [NativeMemo.offers_available, ha]

theorem proceeds_needsMedia (r : Resolver) (reference : AssertedHandler) (type : String) :
    Proceeds r (r.needsMedia reference type).2 := by
  unfold needsMedia
  split
  · exact proceeds_offers r type
  · exact .refl r

theorem comes_nativeChoice (r : Resolver) (type media : String) :
    Comes r type .absent (r.nativeChoice type media).1 (r.nativeChoice type media).2 := by
  have asked := proceeds_supports r type media
  unfold nativeChoice
  dsimp only
  split
  · -- asking for the handler itself is noted and changes nothing else
    have noted : Proceeds { r with native := (r.native.supports type media).2 }
        { r with native := ((r.native.supports type media).2.handler? type).2 } :=
      .asked rfl (fun _ _ ha => ha) fun _ _ ho => .inl ho
    refine .of_absent (asked.trans noted) fun d hd => ?_
    obtain ⟨handler, hh, rfl⟩ := Option.map_eq_some_iff.1 hd
    exact .native (asked.host ▸ hh)
  · exact .none_of asked

theorem comes_default (r : Resolver) (type : String) :
    Comes r type .absent (r.registry.forType? type) r :=
  .of_absent (.refl r) fun _ hd => .default hd

theorem comes_choice (r : Resolver) (type media : String) :
    Comes r type .absent (r.choice type media).1 (r.choice type media).2 := by
  have native := comes_nativeChoice r type media
  unfold choice
  split
  next => exact comes_default r type
  next =>
    split
    next d hd => exact .of_absent (.refl r) fun d' hd' => .default (hd.trans hd')
    next => exact native
  next =>
    split
    next d r' hr =>
      rw [hr] at native
      exact native
    next r' hr =>
      rw [hr] at native
      exact (comes_default r' type).after native.proceeds

theorem proceeds_missReason (r : Resolver) (type : String) : Proceeds r (r.missReason type).2 := by
  unfold missReason
  split
  · exact proceeds_offers r type
  · exact .refl r

theorem comes_resolveDefault (r : Resolver) (url type media : String) :
    Comes r type .absent (found (r.resolveDefault url type media).1)
      (r.resolveDefault url type media).2 := by
  have chosen := comes_choice r type media
  unfold resolveDefault
  split
  next d r' hr =>
    rw [hr] at chosen
    exact chosen
  next r' hr =>
    rw [hr] at chosen
    exact .none_of (chosen.proceeds.trans (proceeds_missReason r' type))

/-- **What an attempt to make a module comes to**: what is kept for the path stays, and what a good module
gives is kept if nothing was. -/
theorem settleModule_cases (r : Resolver) (path url type : String) (result : Except Failure HandlerModule) :
    (∃ error, r.settleModule path url type result = (.error error, r)) ∨
      ∃ m handler types, result = .ok m ∧ m.verify = .ok (handler, types) ∧
        r.settleModule path url type result =
          (.ok (r.memo.keep path handler types).1, { r with memo := (r.memo.keep path handler types).2 }) := by
  unfold settleModule ModuleMemo.settle
  cases result with
  | error failure => exact .inl ⟨_, rfl⟩
  | ok m =>
    dsimp only
    cases hv : m.verify with
    | error fault => exact .inl ⟨_, rfl⟩
    | ok verified => exact .inr ⟨m, verified.1, verified.2, rfl, hv, rfl⟩

theorem keep_of_find? {memo : ModuleMemo} {path : String} (h : memo.find? path = some d)
    (handler : Handler) (types : TypeSet) : memo.keep path handler types = (d, memo) := by
  unfold ModuleMemo.keep
  rw [h]

/-- What is kept for a path after a good module has come. -/
theorem find?_keep (memo : ModuleMemo) (path : String) (handler : Handler) (types : TypeSet)
    (other : String) :
    (memo.keep path handler types).2.find? other =
      if other = path then some (memo.keep path handler types).1 else memo.find? other := by
  cases hd : memo.find? path with
  | some d =>
    rw [keep_of_find? hd]
    split
    next heq => rw [heq, hd]
    next => rfl
  | none =>
    unfold ModuleMemo.keep
    rw [hd]
    exact Table.get?_put ..

/-- **A good module takes nothing's place.** -/
theorem find?_keep_of_some {memo : ModuleMemo} {path other : String} (h : memo.find? other = some d)
    (handler : Handler) (types : TypeSet) :
    (memo.keep path handler types).2.find? other = some d := by
  rw [find?_keep]
  split
  next heq => rw [keep_of_find? (heq ▸ h)]
  next => exact h

theorem comes_resolveModule (r : Resolver) (path url type : String) :
    Comes r type (.module path) (found (r.resolveModule path url type).1)
      (r.resolveModule path url type).2 := by
  unfold resolveModule
  split
  next d hd =>
    refine ⟨.refl r, fun d' hd' => ?_, fun d' path' hd' hpath => ?_⟩
    · cases hd'
      exact .kept hd
    · cases hd'
      cases hpath
      exact hd
  next hnone =>
    have made : Proceeds r { r with modules := (r.modules.instantiate path).2 } :=
      ⟨rfl, rfl, rfl, ModuleTable.instantiate_modules .., fun _ _ h => h, fun _ _ h => .inl h,
        fun _ _ h => h, fun _ _ h => .inl h⟩
    dsimp only
    rcases settleModule_cases { r with modules := (r.modules.instantiate path).2 } path url type
      (r.modules.instantiate path).1 with ⟨error, heq⟩ | ⟨m, handler, types, hm, hv, heq⟩
    · rw [heq]
      exact .none_of made
    · rw [heq]
      have gives : r.Gives path (r.memo.keep path handler types).1 := by
        refine ⟨r.memo.length, m, handler, types, ModuleTable.get?_of_instantiate hm, hv, ?_⟩
        unfold ModuleMemo.keep
        rw [hnone]
      refine ⟨⟨rfl, rfl, rfl, made.modules, fun other d hd => ?_, fun other d hd => ?_,
        fun _ _ ha => ha, fun _ _ ho => .inl ho⟩, fun d hd => ?_, fun d path' hd hpath => ?_⟩
      · exact find?_keep_of_some hd handler types
      · change (r.memo.keep path handler types).2.find? other = some d at hd
        rw [find?_keep] at hd
        split at hd
        next hpath =>
          cases hd
          exact .inr (hpath ▸ gives)
        next => exact .inl hd
      · cases hd
        exact .made hnone gives
      · cases hd
        cases hpath
        show (r.memo.keep path handler types).2.find? path = _
        rw [find?_keep, if_pos rfl]

theorem comes_candidate (r : Resolver) (reference : AssertedHandler) (url type media : String) :
    Comes r type reference (found (r.candidate reference url type media).1)
      (r.candidate reference url type media).2 := by
  cases reference with
  | inline handler =>
    refine ⟨.refl r, fun d hd => ?_, fun d path _ hpath => by cases hpath⟩
    cases hd
    exact .inline handler
  | module path => exact comes_resolveModule r path url type
  | absent => exact comes_resolveDefault r url type media

/-- **What resolving a handler comes to.** -/
theorem comes_resolve (r : Resolver) (reference : AssertedHandler) (url type media : String) :
    Comes r type reference (found (r.resolve reference url type media).1)
      (r.resolve reference url type media).2 := by
  have candidate := comes_candidate r reference url type media
  unfold resolve
  split
  next d r' hr =>
    rw [hr] at candidate
    have accepted : ∀ d', found (accepted url type d) = some d' → found (.ok d) = some d' := by
      intro d' hd'
      unfold Resolver.accepted at hd'
      split at hd'
      · exact hd'
      · cases hd'
    exact ⟨candidate.proceeds, fun d' hd' => candidate.chosen d' (accepted d' hd'),
      fun d' path hd' => candidate.kept d' path (accepted d' hd')⟩
  next e r' hr =>
    rw [hr] at candidate
    exact candidate

/-- **A resolved handler takes the type.** -/
theorem supports_of_resolve (h : (r.resolve reference url type media).1 = .ok d) :
    d.supports type = true := by
  unfold resolve at h
  split at h
  next d' r' hr =>
    change accepted url type d' = .ok d at h
    unfold accepted at h
    split at h
    next hsupports =>
      cases h
      exact hsupports
    next => cases h
  next => cases h

end Resolver

end TypedImport
