import TypedImport.Proofs.Handler.Declaration
import TypedImport.Proofs.Handler.Waiting

/-!
# Where a chosen handler comes from

A descriptor tells its origin. The defaults of a registry and what is kept for modules bear the origins
that they should (`Marked`), so the origin of a resolved descriptor tells what the import said of its
handler (`absent_of_origin`), and it is the host's just where the policy lets the host come in and the
host supports the type and has a handler for it (`choice_native_iff`).
-/

namespace TypedImport

/-- **The defaults of a registry in use bear its mark.** -/
theorem Registry.InUse.origin_run (events : List Registry.Event) (type : String) (d : Descriptor)
    (h : (run events).registry.forType? type = some d) : d.origin = .registry := by
  induction events using List.reverseRecOn generalizing type d with
  | nil => cases h
  | append_singleton events e ih =>
    rw [run_concat] at h
    cases e with
    | define types handler =>
      by_cases hvalid : Registry.Valid types handler
      · rw [after_define_of_valid hvalid] at h
        rcases Registry.forType?_of_define (Registry.define_of_valid hvalid _) h with ⟨-, rfl⟩ | hold
        · rfl
        · exact ih type d hold
      · rw [after_define_of_not_valid hvalid] at h
        exact ih type d h
    | snapshot => exact ih type d h
    | walk k =>
      rw [after_registry_of_none rfl] at h
      exact ih type d h
    | next w =>
      rw [after_registry_of_none rfl] at h
      exact ih type d h

namespace Resolver

variable {r r' : Resolver} {d : Descriptor} {reference : AssertedHandler} {url type media : String}

/-- **What a resolver has bears the mark of where it comes from.** -/
structure Marked (r : Resolver) : Prop where
  registry : ∀ type d, r.registry.forType? type = some d → d.origin = .registry
  memo : ∀ path d, r.memo.find? path = some d → d.origin = .externalModule

theorem origin_of_gives {path : String} (h : r.Gives path d) : d.origin = .externalModule := by
  obtain ⟨n, m, handler, types, -, -, rfl⟩ := h
  rfl

theorem Marked.proceeds (h : r.Marked) (hr : r.Proceeds r') : r'.Marked where
  registry := hr.registry ▸ h.registry
  memo path d hd := by
    rcases hr.adds path d hd with hold | hgives
    · exact h.memo path d hold
    · exact origin_of_gives hgives

theorem Marked.define (h : r.Marked) (types : List String) (handler : Handler) :
    (r.define types handler).2.Marked := by
  unfold Resolver.define
  split
  next d registry defined =>
    refine ⟨fun type d' hd' => ?_, h.memo⟩
    rcases Registry.forType?_of_define defined hd' with ⟨-, rfl⟩ | hold
    · rfl
    · exact h.registry type d' hold
  next => exact h

/-- **A default or a handler of the host is chosen only where none is named.** -/
theorem absent_of_origin (marked : r.Marked) (chosen : r.Chooses type reference d)
    (origin : d.origin = .registry ∨ d.origin = .native) : reference = .absent := by
  cases chosen with
  | inline handler => simp [Descriptor.inline] at origin
  | @kept path d kept =>
    rw [marked.memo path d kept] at origin
    simp at origin
  | made missing gives =>
    rw [origin_of_gives gives] at origin
    simp at origin
  | default => rfl
  | native => rfl

/-- **A handler of the host is chosen just where** the policy lets the host come in and the host both
supports the type for the media type and has a handler for it. -/
theorem choice_native_iff (marked : r.Marked) (type media : String) :
    (∃ d, (r.choice type media).1 = some d ∧ d.origin = .native) ↔
      r.LetsHost type ∧ (r.native.supports type media).1 = true ∧
        ∃ handler, r.native.host.handlerFor type = some handler := by
  have default : ∀ d, r.registry.forType? type = some d → d.origin ≠ .native := by
    intro d hd
    rw [marked.registry type d hd]
    simp
  by_cases hlets : r.LetsHost type
  · rw [choice_of_letsHost hlets, nativeChoice_fst]
    cases (r.native.supports type media).1 with
    | false => simpa using default
    | true =>
      cases r.native.host.handlerFor type with
      | none => simpa using default
      | some handler => simp [hlets, Descriptor.native]
  · rw [choice_of_not_letsHost hlets]
    simpa [hlets] using default

/-- **An import that names no handler comes to one of the host**, whether it takes the type or not, just
where one is chosen. -/
theorem candidate_native_iff (marked : r.Marked) (url type media : String) :
    (∃ d, (r.candidate .absent url type media).1 = .ok d ∧ d.origin = .native) ↔
      r.LetsHost type ∧ (r.native.supports type media).1 = true ∧
        ∃ handler, r.native.host.handlerFor type = some handler := by
  rw [← choice_native_iff marked]
  simp only [candidate, resolveDefault_eq_ok_iff]

end Resolver

end TypedImport
