import TypedImport.Proofs.Import.Validation
import TypedImport.Proofs.Loader.Phases
import TypedImport.Proofs.Loader.Statistics

/-!
# Imports are validated once

An import by name has its assertion checked before its specifier is looked at, and again when its request is made. The
second check finds nothing, so an import is refused for one of two reasons or has its request (`Enters`), and it is
counted once in either case (`Enters.counted`).

`validated_run` puts together what a check admits, what a loader makes of it in a run, and which types the requests
have.
-/

namespace TypedImport.Loader

variable {l l' : Loader} {specifier : String} {referrer : Option Url} {a : Assertion} {bindings : Bindings}

/-- **What a loader makes of an import by name**: it tells one error, of the assertion or else of the specifier, or
takes a request that keeps all of the assertion but the blanks around its type. -/
inductive Enters (l : Loader) (specifier : String) (referrer : Option Url) (a : Assertion) (bindings : Bindings) :
    Loader → Prop where
  | malformed {url type : String} {fault : AssertionFault} (bad : ¬ a.Good bindings) :
      Enters l specifier referrer a bindings (l.refuse (.assertion specifier url type fault))
  | unresolved {fault : SpecifierFault} (good : a.Good bindings)
      (nowhere : Specifier.resolve l.base referrer specifier = .error fault) :
      Enters l specifier referrer a bindings
        (l.refuse (.load specifier (Text.trim a.type) none 0 (.unresolved fault)))
  | requested {url : Url} (good : a.Good bindings)
      (resolved : Specifier.resolve l.base referrer specifier = .ok url) :
      Enters l specifier referrer a bindings
        (l.submit ⟨specifier, url, { a with type := Text.trim a.type }, bindings⟩)

/-- **No import by name is refused but for its assertion or its specifier.** -/
theorem enters_startImport (l : Loader) (specifier : String) (referrer : Option Url) (a : Assertion)
    (bindings : Bindings) :
    Enters l specifier referrer a bindings (l.after (.startImport specifier referrer a bindings)) := by
  by_cases good : a.Good bindings
  · cases resolved : Specifier.resolve l.base referrer specifier with
    | error fault =>
      rw [after_of_unresolved good.not_malformed resolved]
      exact .unresolved good resolved
    | ok url =>
      rw [after_of_orders (.named resolved (ImportRequest.make_of_good good specifier url))]
      exact .requested good resolved
  · have bad : a.Malformed bindings := by rwa [Assertion.good_iff, not_not] at good
    obtain ⟨url, type, fault, told⟩ := after_of_malformed l specifier referrer bad
    rw [told]
    exact .malformed good

/-- **An import by name is one import more**, counted as one, and as one failure if it has failed. -/
theorem Enters.counted (h : Enters l specifier referrer a bindings l') :
    ∃ imp, l'.imports = l.imports ++ [imp] ∧
      l'.stats = { l.stats with
        imports := l.stats.imports + 1
        failures := l.stats.failures + if imp.stage.fate = .failed then 1 else 0 } := by
  cases h with
  | malformed => exact ⟨_, rfl, rfl⟩
  | unresolved => exact ⟨_, rfl, rfl⟩
  | requested => exact ⟨_, rfl, rfl⟩

/-- **Validation is exact, and done once**: what it comes to for an assertion and what its import binds, in a run. -/
structure Validated (l : Loader) (events : List Event) (a : Assertion) (bindings : Bindings) : Prop where
  /-- A check is passed by what is good, and by nothing else. -/
  passes_iff : ∀ specifier url, (∃ b, a.check specifier url bindings = .ok b) ↔ a.Good bindings
  /-- It trims the type and keeps all else. -/
  trims : ∀ specifier url b, a.check specifier url bindings = .ok b → b = { a with type := Text.trim a.type }
  /-- What has passed passes again as it is, whatever specifier and URL the check is for. -/
  again : ∀ specifier url b, a.check specifier url bindings = .ok b →
    ∀ specifier' url', b.check specifier' url' bindings = .ok b
  /-- So its request is always made. -/
  requests : ∀ specifier shown b, a.check specifier shown bindings = .ok b →
    ∀ url, ImportRequest.make specifier url b bindings = .ok ⟨specifier, url, b, bindings⟩
  /-- An import by name is refused for a bad assertion or a specifier that names no URL, and for nothing else. -/
  enters : ∀ specifier referrer, Enters (l.run events) specifier referrer a bindings
    (l.run (events ++ [.startImport specifier referrer a bindings]))
  /-- Either way it is one import more, and counted once: as an import, and as a failure if it was refused. -/
  once : ∀ specifier referrer, ∃ imp,
    (l.run (events ++ [.startImport specifier referrer a bindings])).imports = (l.run events).imports ++ [imp] ∧
      (l.run (events ++ [.startImport specifier referrer a bindings])).stats =
        { (l.run events).stats with
          imports := (l.run events).stats.imports + 1
          failures := (l.run events).stats.failures + if imp.stage.fate = .failed then 1 else 0 }
  /-- It is not counted again later: there are as many imports counted as have come in, and as many failures as
  imports that have failed. -/
  counted : (l.run events).stats.imports = events.countP Event.isImport ∧
    (l.run events).imports.length = events.countP Event.isImport ∧
      (l.run events).stats.failures = (l.run events).tally .failed
  /-- The type of a request has the default of a definition just if this lists a text with the same type in it. -/
  found : ∀ specifier url request, ImportRequest.make specifier url a bindings = .ok request →
    ∀ (r r' : Registry) types handler d, r.define types handler = .ok (d, r') →
      r'.forType? request.type =
        if Text.trim a.type ∈ types.map Text.trim then some d else r.forType? request.type
  /-- The types of requests are those that a registry can have a default for. -/
  keys : ∀ t, (∃ request, ImportRequest.Made request ∧ request.type = t) ↔
    ∃ definitions, ((Registry.InUse.run definitions).registry.forType? t).isSome

/-- **Validation is exact, and done once**, for every assertion in every run of every loader. -/
theorem validated_run (config : Config) (base : Option Url) (registry : Registry) (native : NativeMemo)
    (modules : ModuleTable) (feed : Feed) (events : List Event) (a : Assertion) (bindings : Bindings) :
    Validated (build config base registry native modules feed) events a bindings := by
  have hl := fresh_build config base registry native modules feed
  have tallied := tallied_run hl rfl events
  have requested := stats_imports_run hl rfl events
  refine ⟨?passes_iff, ?trims, ?again, ?requests, ?enters, ?once, ?counted, ?found, ?keys⟩
  case passes_iff =>
    intro specifier url
    simp only [Assertion.check_eq_ok_iff_good, exists_and_left, exists_eq, and_true]
  case trims => exact fun specifier url b passed => (Assertion.check_eq_ok_iff_good.1 passed).2
  case again => exact fun specifier url b passed => Assertion.check_of_check passed
  case requests => exact fun specifier shown b passed => ImportRequest.make_of_checked passed specifier
  case enters =>
    intro specifier referrer
    rw [run_concat]
    exact enters_startImport _ specifier referrer a bindings
  case once =>
    intro specifier referrer
    rw [run_concat]
    exact (enters_startImport _ specifier referrer a bindings).counted
  case counted =>
    obtain ⟨-, -, failures⟩ := Stats.Outcomes.mk.inj tallied.outcomes
    exact ⟨requested, tallied.imports ▸ requested, failures⟩
  case found =>
    intro specifier url request made r r' types handler d defined
    rw [Registry.forType?_after_define defined, (ImportRequest.url_type_of_make made).2]
  case keys => exact fun t => ImportRequest.exists_made_iff.trans Registry.InUse.exists_default_iff.symm

end TypedImport.Loader
