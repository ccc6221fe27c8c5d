import TypedImport.Proofs.Handler.Log
import TypedImport.Proofs.Import.Checks

/-!
# What a check admits

`Good` says, point by point, what a check asks of an assertion and of what its import binds. A check admits what is
good, and of that it changes nothing but the type, which it trims (`check_eq_ok_iff_good`).

**Requests** are made of good assertions only, and a request is made again of its own parts (`made_iff`).

**Types as keys.** A definition of a registry trims its types as a check does, so the types of requests are the types
that a registry can have a default for (`exists_made_iff`, `exists_default_iff`): the trimmed texts but the empty one.
-/

namespace TypedImport

/-! ## Good assertions -/

theorem AssertedHandler.isExplicit_eq_false_iff {handler : AssertedHandler} :
    handler.isExplicit = false ↔ handler = .absent := by
  cases handler <;> simp [isExplicit]

namespace Assertion

variable {a b : Assertion} {specifier url : String} {bindings : Bindings}

/-- **An assertion is good** for what an import binds. -/
structure Good (a : Assertion) (bindings : Bindings) : Prop where
  type : Text.trim a.type ≠ ""
  path : ∀ path, a.handler = .module path → Text.isBlankText path = false
  /-- An import for its effect alone names no handler. -/
  effect : bindings = .sideEffect → a.handler = .absent
  names : ∀ names, bindings = .named names → names ≠ [] ∧ ∀ name ∈ names, Text.isBlankText name = false

theorem Good.not_malformed (good : a.Good bindings) : ¬ a.Malformed bindings := by
  intro bad
  cases bad with
  | blankType blank => exact good.type (Text.trim_eq_empty_iff.2 blank)
  | blankPath handler blank =>
    rw [good.path _ handler] at blank
    cases blank
  | unbound named nothing =>
    rw [good.effect nothing] at named
    cases named
  | noNames names => exact (good.names [] names).1 rfl
  | blankName named mem blank =>
    rw [(good.names _ named).2 _ mem] at blank
    cases blank

/-- **An assertion is good unless it is malformed.** -/
theorem good_iff : a.Good bindings ↔ ¬ a.Malformed bindings := by
  refine ⟨Good.not_malformed, fun fine => ⟨?type, ?path, ?effect, ?names⟩⟩
  case type => exact fun empty => fine (.blankType (Text.trim_eq_empty_iff.1 empty))
  case path => exact fun path handler => Bool.eq_false_iff.2 fun blank => fine (.blankPath handler blank)
  case effect =>
    intro nothing
    exact AssertedHandler.isExplicit_eq_false_iff.1 (Bool.eq_false_iff.2 fun named => fine (.unbound named nothing))
  case names =>
    intro names named
    refine ⟨?_, fun name mem => Bool.eq_false_iff.2 fun blank => fine (.blankName named mem blank)⟩
    rintro rfl
    exact fine (.noNames named)

/-- **A check admits what is good**, with its type trimmed. -/
theorem check_eq_ok_iff_good :
    a.check specifier url bindings = .ok b ↔ a.Good bindings ∧ b = { a with type := Text.trim a.type } := by
  rw [check_eq_ok_iff, good_iff, malformed_iff, not_or, not_not, and_assoc]

/-- Blanks of every kind around the type go, and those around a name stay. -/
example : ({ type := "\u2003csv\u00a0" } : Assertion).check "./a.csv" "file:///a.csv" (.named [" rows"]) =
    .ok { type := "csv" } := by
  rfl

end Assertion

/-! ## Requests -/

namespace ImportRequest

variable {a b : Assertion} {specifier : String} {url : Url} {bindings : Bindings} {request : ImportRequest}

/-- **A request was made** of an assertion. -/
def Made (request : ImportRequest) : Prop :=
  ∃ specifier url a bindings, make specifier url a bindings = .ok request

/-- **A request is made of an assertion that is good.** -/
theorem make_of_good (good : a.Good bindings) (specifier : String) (url : Url) :
    make specifier url a bindings = .ok ⟨specifier, url, { a with type := Text.trim a.type }, bindings⟩ :=
  make_eq_ok_iff.2 ⟨_, Assertion.check_eq_ok_iff_good.2 ⟨good, rfl⟩, rfl⟩

/-- **A request of a checked assertion is always made**, whatever it was checked for. -/
theorem make_of_checked {shown : String} (h : a.check specifier shown bindings = .ok b) (specifier' : String)
    (url : Url) : make specifier' url b bindings = .ok ⟨specifier', url, b, bindings⟩ :=
  make_eq_ok_iff.2 ⟨b, Assertion.check_of_check h specifier' url.text, rfl⟩

/-- **A request that was made is made again of its own parts.** -/
theorem made_iff :
    request.Made ↔ make request.specifier request.url request.assertion request.bindings = .ok request := by
  constructor
  · rintro ⟨specifier, url, a, bindings, made⟩
    obtain ⟨b, checked, rfl⟩ := make_eq_ok_iff.1 made
    exact make_of_checked checked specifier url
  · intro again
    exact ⟨_, _, _, _, again⟩

/-- **The types of requests** are the trimmed texts but the empty one. -/
theorem exists_made_iff {t : String} :
    (∃ request, Made request ∧ request.type = t) ↔ Text.trim t = t ∧ t ≠ "" := by
  constructor
  · rintro ⟨request, made, rfl⟩
    have again := made_iff.1 made
    have trimmed : request.type = Text.trim request.type := (url_type_of_make again).2
    obtain ⟨b, checked, -⟩ := make_eq_ok_iff.1 again
    have typed : Text.trim request.type ≠ "" := (Assertion.check_eq_ok_iff_good.1 checked).1.type
    exact ⟨trimmed.symm, trimmed ▸ typed⟩
  · rintro ⟨trimmed, typed⟩
    have good : ({ type := t } : Assertion).Good .dynamic :=
      { type := by rwa [trimmed]
        path := by simp
        effect := by simp
        names := by simp }
    let url : Url := { scheme := "file", authority := none, path := .segments [] }
    exact ⟨_, ⟨"", url, _, _, make_of_good good "" url⟩, trimmed⟩

end ImportRequest

/-! ## Types with a default -/

namespace Registry

variable {r : Registry} {types : List String} {handler : Handler} {t : String} {e : Entry} {d : Descriptor}

theorem mem_listed : t ∈ listed types ↔ t ∈ types.map Text.trim :=
  List.mem_eraseDups

/-- A type that a definition is written down with is trimmed, and not empty. -/
theorem trimmed_of_mem_listed (valid : Valid types handler) (h : t ∈ listed types) : Text.trim t = t ∧ t ≠ "" := by
  obtain ⟨text, mem, rfl⟩ := List.mem_map.1 (mem_listed.1 h)
  exact ⟨Text.trim_trim text, (valid.2 text mem).1⟩

/-- **A definition gives a default to the types that it lists**, up to blanks around them, and leaves all others. -/
theorem forType?_after_define {registry : Registry} (defined : r.define types handler = .ok (d, registry))
    (t : String) :
    registry.forType? t = if t ∈ types.map Text.trim then some d else r.forType? t := by
  obtain ⟨-, rfl, rfl⟩ := define_eq_ok_iff.1 defined
  rw [forType?_add]
  simp only [mem_listed]

theorem mem_of_latest {log : List Entry} (h : latest log t = some e) : e ∈ log ∧ t ∈ e.types := by
  have listed := List.find?_some h
  exact ⟨List.mem_reverse.1 (List.mem_of_find?_eq_some h), by simpa using listed⟩

namespace InUse

theorem valid_of_mem_log {events : List Event} (h : e ∈ log events) :
    ∃ n types handler, Valid types handler ∧ e = written n types handler := by
  obtain ⟨n, inside, rfl⟩ := List.mem_mapIdx.1 h
  obtain ⟨event, -, made⟩ := List.mem_filterMap.1 (List.getElem_mem inside)
  cases event with
  | define types handler =>
    by_cases valid : Valid types handler
    · rw [definition?, if_pos valid] at made
      rw [← Option.some.inj made]
      exact ⟨n, types, handler, valid, rfl⟩
    · rw [definition?, if_neg valid] at made
      cases made
  | snapshot | walk | next => cases made

/-- A handler that takes every type. -/
def taker : Handler :=
  .ofFunction (.allocate 0) "taker" [] fun _ _ => .ok .null

/-- **The types that a registry can have a default for** are the trimmed texts but the empty one. -/
theorem exists_default_iff :
    (∃ events, ((run events).registry.forType? t).isSome) ↔ Text.trim t = t ∧ t ≠ "" := by
  constructor
  · rintro ⟨events, default⟩
    rw [(follows_run events).default, Option.isSome_map] at default
    obtain ⟨e, latest⟩ := Option.isSome_iff_exists.1 default
    obtain ⟨logged, mem⟩ := mem_of_latest latest
    obtain ⟨n, types, handler, valid, rfl⟩ := valid_of_mem_log logged
    exact trimmed_of_mem_listed valid mem
  · rintro ⟨trimmed, typed⟩
    have valid : Valid [t] taker :=
      ⟨List.cons_ne_nil t [], List.forall_mem_singleton.2 ⟨trimmed.symm ▸ typed, rfl⟩⟩
    have mem : t ∈ listed [t] := mem_listed.2 (List.mem_singleton.2 trimmed.symm)
    refine ⟨[] ++ [.define [t] taker], ?_⟩
    rw [run_concat, after_define_of_valid valid, forType?_add, if_pos mem, Option.isSome_some]

end InUse

end Registry

end TypedImport
