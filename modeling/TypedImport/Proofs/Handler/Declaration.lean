import TypedImport.Handler.Module
import TypedImport.Proofs.Handler.Log

/-!
# Declared types

A descriptor says which types it takes, and its handler which types it declares. A descriptor may take more
than its handler declares only if it is of a module that lists types of its own (`Relists`): a default was
refused where the handler does not support the type, and inline and native handlers are taken as they are.
-/

namespace TypedImport

/-- **A descriptor takes the types that its handler declares** and no more. -/
def Descriptor.Faithful (d : Descriptor) : Prop :=
  ∀ t, d.supports t = true → d.handler.supports t = true

theorem Descriptor.faithful_of_types {d : Descriptor} (h : d.types = d.handler.types) :
    d.Faithful := by
  intro t ht
  rw [supports, h] at ht
  exact ht

/-- **A module lists types of its own** beside its handler. -/
structure HandlerModule.Relists (m : HandlerModule) (handler : Handler) (types : List String) : Prop where
  handler : m.handler = .ok handler
  listed : ∃ items, m.get? typesExport = some (.value (.array items)) ∧ strings? items = some types

/-- A good module takes the types of its handler, or those that it lists. -/
theorem HandlerModule.types_of_verify {m : HandlerModule} {handler : Handler} {set : TypeSet}
    (h : m.verify = .ok (handler, set)) :
    set = handler.types ∨ ∃ types, m.Relists handler types ∧ set = TypeSet.ofList types := by
  unfold verify at h
  split at h
  · cases h
  next handler' hhandler =>
    split at h
    · cases h
    next set' htypes =>
      cases h
      unfold HandlerModule.types at htypes
      split at htypes
      · cases htypes
        exact .inl rfl
      next items hexport =>
        split at htypes
        next types hitems =>
          cases htypes
          exact .inr ⟨types, ⟨hhandler, items, hexport, hitems⟩, rfl⟩
        · cases htypes
      · cases htypes

namespace Registry

/-- A default takes no types that its handler does not declare: it was refused for any other. -/
theorem faithful_registry {types : List String} {handler : Handler} (h : Valid types handler) (n : Nat) :
    (Descriptor.registry n handler (listed types)).Faithful := by
  intro t ht
  have hunion : (Descriptor.registry n handler (listed types)).types.isEmpty = false := by
    obtain ⟨first, hfirst⟩ := List.exists_mem_of_ne_nil _ (listed_ne_nil h)
    have hmem := (TypeSet.mem_foldl_insert _ handler.types).2 (.inl hfirst)
    exact Bool.eq_false_iff.2 fun hnil => List.ne_nil_of_mem hmem (List.isEmpty_iff.1 hnil)
  unfold Descriptor.supports TypeSet.admits at ht
  rw [hunion, Bool.false_or, List.contains_iff_mem] at ht
  rcases (TypeSet.mem_foldl_insert _ handler.types).1 ht with hlisted | hdeclared
  · obtain ⟨t', ht', rfl⟩ := List.mem_map.1 (List.mem_eraseDups.1 hlisted)
    exact (h.2 t' ht').2
  · show TypeSet.admits handler.types t = true
    simp [TypeSet.admits, hdeclared]

theorem faithful_of_define {r registry : Registry} {types : List String} {handler : Handler}
    {d : Descriptor} (h : ∀ t d, r.forType? t = some d → d.Faithful)
    (defined : r.define types handler = .ok (d, registry)) :
    ∀ t d, registry.forType? t = some d → d.Faithful := by
  intro t d' hd'
  rcases forType?_of_define defined hd' with ⟨hvalid, rfl⟩ | hold
  · exact faithful_registry hvalid r.defined
  · exact h t d' hold

/-- **The defaults of a registry in use take no types that their handlers do not declare.** -/
theorem InUse.faithful_run (events : List Event) (t : String) (d : Descriptor)
    (hd : (run events).registry.forType? t = some d) : d.Faithful := by
  induction events using List.reverseRecOn generalizing t d with
  | nil => cases hd
  | append_singleton events e ih =>
    rw [run_concat] at hd
    cases e with
    | define types handler =>
      by_cases hvalid : Valid types handler
      · rw [after_define_of_valid hvalid] at hd
        exact faithful_of_define ih (define_of_valid hvalid _) t d hd
      · rw [after_define_of_not_valid hvalid] at hd
        exact ih t d hd
    | snapshot => exact ih t d hd
    | walk k =>
      rw [after_registry_of_none rfl] at hd
      exact ih t d hd
    | next w =>
      rw [after_registry_of_none rfl] at hd
      exact ih t d hd

end Registry

end TypedImport
