import TypedImport.Proofs.Loader.Requests

/-!
# Whose record an import is given

A record tells what it is of: its key and the fingerprint of its content. `Integrity` says that it tells the
truth to whoever gets it from a loader. What is kept under a key is a record of that key, and an import that
ends with a record has one of its own URL, handler and type and of the content that it has itself fetched,
be it served by a hit, by a computation that another import has started or by one of its own.

**Three fingerprints** have to agree: that of the fetched asset, that in the mark of a computation under way
and that in the record. `Demand.IsOf.content` has the first, the pairing of computations the second and
third (`record_isOf`), and `Linked` ties an import to a computation by comparing them.
-/

namespace TypedImport

/-- **A record is of a key**, and no export has an empty name. -/
structure Record.IsOf (r : Record) (k : CacheKey) : Prop where
  key : r.key = k
  handler : r.handler = k.handler
  names : ∀ field ∈ r.exports, field.1 ≠ ""

theorem Value.name_ne_of_exports? {v : Value} {fields : Fields} (h : v.exports? = .ok fields) :
    ∀ field ∈ fields, field.1 ≠ "" := by
  unfold exports? at h
  split at h
  next fields' =>
    split at h
    next => cases h
    next hnone =>
      cases h
      intro field hfield hempty
      exact hnone (List.any_eq_true.2 ⟨field, hfield, String.isEmpty_iff.2 hempty⟩)
  next => cases h

namespace Loader

variable {l : Loader} {events : List Event} {i n : Nat}

/-- **The record that a computation ends with** is of its key and content. -/
theorem record_isOf (hl : l.Fresh) (events : List Event) {f : Flight} {r : Record}
    (hf : (l.run events).flights.flights[n]? = some f) (he : f.ending = some (.record r)) :
    r.IsOf f.key ∧ r.fingerprint = f.fingerprint := by
  obtain ⟨comp, result, hc, hkey, hgives, hres⟩ := normal_run hl events hf he
  obtain ⟨-, hcontent⟩ := (paired_run hl events).key n comp f hc hf
  rcases hgives with ⟨nth, v, fields, hcall, hv, rfl⟩ | ⟨fault, rfl⟩
  · cases hres
    exact ⟨⟨hkey, congrArg CacheKey.handler hkey, Value.name_ne_of_exports? hv⟩, hcontent.symm⟩
  · cases hres

/-- **An import was given the record that is its own**: `request` is what it was ordered with, `fetched`
what it has fetched and `own` its demand. -/
structure Rightful (l : Loader) (events : List Event) (i : Nat) (served : Served)
    (request : ImportRequest) (fetched : Fetched) (own : Demand) : Prop where
  /-- It was ordered with this request and no other. -/
  ordered : Ordered l events i request ∧ ∀ other, Ordered l events i other → other = request
  /-- It has asked the cache with this demand and no other. -/
  asked : Asks l events i own ∧ ∀ d, Asks l events i d → d = own
  /-- In the turns of this import one handler was resolved for the request, that of the demand. -/
  resolved : ∀ d, Resolved l events i request d ↔ d = own.descriptor
  /-- The content came in with a fetch of this import, in the turn in which it asked. -/
  fetches : Fetches l events i request fetched own
  /-- The record is of the URL and the type of the request, and of that handler. -/
  record : served.made.record.IsOf ⟨request.url.text, own.descriptor.id, request.type⟩
  /-- The type is the trimmed one of whatever assertion the request was made of. -/
  trimmed : ∀ specifier url a bindings, ImportRequest.make specifier url a bindings = .ok request →
    served.made.record.key = ⟨url.text, own.descriptor.id, Text.trim a.type⟩
  /-- The fingerprint is that of the content. -/
  content : served.made.record.fingerprint = fingerprint fetched.bytes

/-- **The records of a run are what they say.** -/
structure Integrity (l : Loader) (events : List Event) : Prop where
  /-- What is ready under a key is a record of that key. -/
  entries : ∀ key made, (l.run events).flights.cache.get? key = some made → made.record.IsOf key
  /-- What an import has ended with is the record that is its own. -/
  served : ∀ i states served, (l.run events).imports[i]? = some ⟨states, .done (.ok served)⟩ →
    ∃ request fetched own, Rightful l events i served request fetched own

theorem rightful_run (hl : l.Fresh) (events : List Event) {states : List ImportState} {served : Served}
    (done : (l.run events).imports[i]? = some ⟨states, .done (.ok served)⟩) :
    ∃ request fetched own, Rightful l events i served request fetched own := by
  have linked := linked_run hl events
  cases linked.backed i _ done with
  | early early => exact early.elim
  | @served own _ f ask backs flight ending =>
    obtain ⟨request, fetched, ordered, resolved, fetches⟩ := (traced_run hl events).demands i own ask
    have hof := isOf_of_fetches fetches
    obtain ⟨isOf, content⟩ := record_isOf hl events flight ending
    obtain ⟨f', hf', hkey, hcontent⟩ := backs.flight
    rw [flight] at hf'
    cases hf'
    rw [hkey, hof.key] at isOf
    rw [hcontent, hof.content] at content
    refine ⟨request, fetched, own, ?_⟩
    constructor
    case ordered => exact ⟨ordered, fun other h => ordered_unique h ordered⟩
    case asked => exact ⟨ask, fun d hd => linked.once i d own hd ask⟩
    case resolved => exact resolved
    case fetches => exact fetches
    case record => exact isOf
    case trimmed =>
      intro specifier url a bindings hmake
      obtain ⟨hurl, htype⟩ := ImportRequest.url_type_of_make hmake
      rw [isOf.key, hurl, htype]
    case content => exact content

/-- **Every run of a loader keeps the integrity of its records.** -/
theorem integrity_run (config : Config) (base : Option Url) (registry : Registry)
    (native : NativeMemo) (modules : ModuleTable) (feed : Feed) (events : List Event) :
    Integrity (build config base registry native modules feed) events := by
  have hl := fresh_build config base registry native modules feed
  constructor
  case entries =>
    intro key made hready
    obtain ⟨f, hf, hkey, hending⟩ :=
      (sound_flights hl events).ready key made (Cache.get?_eq_some_iff.1 hready)
    rw [← hkey]
    exact (record_isOf hl events hf hending).1
  case served =>
    intro i states served done
    exact rightful_run hl events done

end Loader

end TypedImport
