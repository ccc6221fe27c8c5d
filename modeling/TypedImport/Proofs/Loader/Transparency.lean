import TypedImport.Proofs.Loader.Identities

/-!
# What the cache may give in place of a run of the handler

An import is served by the cache with a record that may have been made for another import. `Transparent`
says how far that can be told: the record was made under the import's own key, with the exports that the
import's own handler gives for its own URL and type, on a content with the fingerprint of its own.
`transparent_run` proves it of all that end with a record, by a hit, by joining a computation or by having one
started.

**What the key leaves out.** A key is of the URL, the handler and the type. The media type and the encoding
are those of the import that the record was made for; one with others is given the same record
(`amiss_threeContexts`).

**Names that could clash.** A content is known by its fingerprint and a module by an identity derived from
its path. Where two contents or two paths had the same, the cache could not tell them apart; the
statement says so where it matters, and all that it leaves open of a clash of paths is which of the two
modules the exports are of. Other handlers are known by their numbers, and these tell them apart
(`Numbered`) where all that a run is given was made, one handler after the other (`numbered_of_crafted`).
-/

namespace TypedImport

/-- **What a handler's call comes to depends on the bytes and the context alone.** -/
def Handler.IsFunction (h : Handler) : Prop :=
  ∀ nth nth' bytes context, (h.call nth bytes context).outcome = (h.call nth' bytes context).outcome

/-- **A handler yields exports** for bytes and a context. -/
def Handler.Yields (h : Handler) (bytes : Bytes) (context : Context) (fields : Fields) : Prop :=
  ∃ v, (h.call 0 bytes context).outcome = .value v ∧ v.exports? = .ok fields

/-- **Two descriptors are of modules whose paths are different and have one derived identity.** -/
def Descriptor.Clash (d d' : Descriptor) : Prop :=
  ∃ p q, d.OfPath p ∧ d'.OfPath q ∧ p ≠ q ∧ d.id = d'.id

namespace Loader

variable {l : Loader} {events : List Event} {i : Nat} {d d' : Demand}

/-- **Identities tell the handlers of a run apart**, as far as they are numbers given out one by one. -/
structure Numbered (l : Loader) (events : List Event) : Prop where
  number : ∀ h, Given l events h → h.id.IsNumber
  apart : ∀ h h', Given l events h → Given l events h' → h.id = h'.id → h.call = h'.call

/-- **How an import is served**: `own` is its own demand, and `made` the one that the record was made
for. -/
structure Transparent (l : Loader) (events : List Event) (i : Nat) (served : Served)
    (own made : Demand) : Prop where
  /-- The import has asked with its demand and with no other. -/
  asked : Asks l events i own ∧ ∀ d, Asks l events i d → d = own
  /-- The other demand is of an import of the same run. -/
  source : ∃ j, Asks l events j made
  /-- It is for the same URL, identity of the handler and type. -/
  key : made.key = own.key
  url : made.asset.url.text = own.asset.url.text
  type : made.type = own.type
  /-- The two contents have one fingerprint. -/
  content : fingerprint made.asset.bytes = fingerprint own.asset.bytes
  /-- With the media type of the other demand goes its native flag. -/
  native : made.asset.media = own.asset.media →
    made.asset.nativeAvailable = own.asset.nativeAvailable
  /-- The exports are what the handler of the other demand yields for it. -/
  yielded : made.descriptor.handler.Yields made.asset.bytes (made.asset.context made.type)
    served.made.record.exports
  /-- They are what the import's own handler yields on that content and for that media type and encoding. -/
  exports : own.descriptor.Clash made.descriptor ∨
    own.descriptor.handler.Yields made.asset.bytes
      ⟨own.asset.url.text, own.type, made.asset.media, made.asset.encoding, made.asset.nativeAvailable⟩
      served.made.record.exports
  /-- Where content, media type and encoding agree, they are what the handler yields for the import. -/
  agreeing : made.asset.bytes = own.asset.bytes → made.asset.media = own.asset.media →
    made.asset.encoding = own.asset.encoding → own.descriptor.Clash made.descriptor ∨
      own.descriptor.handler.Yields own.asset.bytes (own.asset.context own.type)
        served.made.record.exports
  /-- Where it is told that its record was computed, the record was made for its own demand. -/
  computed : served.status = .computed → made = own

/-! ## The handler -/

theorem call_eq_of_id_eq (hl : l.Fresh) (numbered : Numbered l events) {i j : Nat}
    (hd : Asks l events i d) (hd' : Asks l events j d') (hid : d.descriptor.id = d'.descriptor.id) :
    d.descriptor.Clash d'.descriptor ∨ d.descriptor.handler.call = d'.descriptor.handler.call := by
  have vouched := ((sourced_run hl events).demands i d hd).handler
  have vouched' := ((sourced_run hl events).demands j d' hd').handler
  rcases vouched.identity with hown | ⟨p, hp, kept⟩
  · rcases vouched'.identity with hown' | ⟨q, hq, -⟩
    · exact .inr (numbered.apart _ _ vouched.source vouched'.source
        (hown.symm.trans (hid.trans hown')))
    · have hnumber := numbered.number _ vouched.source
      rw [← hown, hid, hq.id] at hnumber
      exact (HandlerId.not_isNumber_derive _ _ hnumber).elim
  · rcases vouched'.identity with hown' | ⟨q, hq, kept'⟩
    · have hnumber := numbered.number _ vouched'.source
      rw [← hown', ← hid, hp.id] at hnumber
      exact (HandlerId.not_isNumber_derive _ _ hnumber).elim
    · by_cases hpq : p = q
      · rw [hpq] at kept
        rw [kept] at kept'
        exact .inr (by rw [Option.some.inj kept'])
      · exact .inl ⟨p, q, hp, hq, hpq, hid⟩

/-! ## Handlers that were made -/

/-- **Handlers that were made one after the other are told apart**, as long as their numbers fit. -/
theorem numbered_of_crafted {made : List Making} (few : made.length < 2 ^ 63)
    (crafted : ∀ h, Given l events h → h.Crafted made) : Numbered l events where
  number h hg := by
    obtain ⟨n, hn⟩ := crafted h hg
    rw [hn.id]
    exact HandlerId.isNumber_allocate (Nat.lt_of_le_of_lt hn.lt few)
  apart h h' hg hg' hid := by
    obtain ⟨n, hn⟩ := crafted h hg
    obtain ⟨n', hn'⟩ := crafted h' hg'
    rw [hn.id, hn'.id] at hid
    have same : n = n' := hn.number_inj hn' few hid
    subst same
    exact hn.call_eq hn'

/-- **So are those of a loader in a program**, whatever of the events of the program are the loader's own. -/
theorem numbered_of_lawful {s : Session} {happened : List Session.Event} (lawful : s.Lawful happened)
    (few : (s.run happened).made.length < 2 ^ 63) (part : ∀ e ∈ events, .loader e ∈ happened) :
    Numbered s.loader events := by
  have known := lawful.given.mono fun h crafted => Session.crafted_run crafted happened
  refine numbered_of_crafted few fun h hg => ?_
  cases hg with
  | registry default same => exact same ▸ known.registry _ _ default
  | host offered => exact known.host _ _ offered
  | module registered offers => exact known.modules _ _ _ registered offers
  | @event e happens brings =>
    -- it was made before the event, and so by the end
    obtain ⟨before, later, heq⟩ := List.append_of_mem (part e happens)
    have crafted := lawful.brings before (.loader e) later heq h brings
    have kept := Session.crafted_run crafted (.loader e :: later)
    rwa [Session.run, Session.run, ← List.foldl_append, ← heq] at kept

/-! ## The record -/

/-- **The record of an import was made for a demand of its key and content.** -/
theorem served_run (hl : l.Fresh) (events : List Event) {states : List ImportState} {served : Served}
    (done : (l.run events).imports[i]? = some ⟨states, .done (.ok served)⟩) :
    ∃ own made, Asks l events i own ∧ (∃ j, Asks l events j made) ∧ made.key = own.key ∧
      made.asset.fingerprint = own.asset.fingerprint ∧ (served.status = .computed → made = own) ∧
      ∃ nth v, (made.computation.call nth).outcome = .value v ∧
        v.exports? = .ok served.made.record.exports := by
  have linked := linked_run hl events
  cases linked.backed i _ done with
  | early early => exact early.elim
  | @served own _ f ask backs flight ending =>
    obtain ⟨comp, nth, v, hc, hkey, hfp, -, hcall, hv⟩ := record_run hl events flight ending
    obtain ⟨⟨f', hf', hkey', hfp'⟩, hown⟩ := backs
    rw [flight] at hf'
    cases hf'
    have made : ∀ {d : Demand}, comp.IsOf d → d.key = own.key ∧
        d.asset.fingerprint = own.asset.fingerprint ∧
        (d.computation.call nth).outcome = .value v := by
      rintro d ⟨hdesc, hasset, hk⟩
      refine ⟨hk.symm.trans (hkey.trans hkey'), hasset ▸ hfp.trans hfp', ?_⟩
      rw [← hcall]
      unfold Computation.call
      rw [hdesc, hasset, hk]
      rfl
    by_cases hs : served.status = .computed
    · obtain ⟨comp', hc', hof⟩ := hown hs
      rw [hc] at hc'
      cases hc'
      obtain ⟨hk, hp, hm⟩ := made hof
      exact ⟨own, own, ask, ⟨i, ask⟩, hk, hp, fun _ => rfl, nth, v, hm, hv⟩
    · obtain ⟨j, d, hasks, hof⟩ := linked.made _ comp hc
      obtain ⟨hk, hp, hm⟩ := made hof
      exact ⟨own, d, ask, ⟨j, hasks⟩, hk, hp, fun h => absurd h hs, nth, v, hm, hv⟩

/-- **Every import that ends with a record is served as its own handler would.** -/
theorem transparent_run (config : Config) (base : Option Url) (registry : Registry)
    (native : NativeMemo) (modules : ModuleTable) (feed : Feed) (events : List Event)
    (numbered : Numbered (build config base registry native modules feed) events)
    (functions : ∀ h, Given (build config base registry native modules feed) events h → h.IsFunction)
    {states : List ImportState} {served : Served}
    (done : ((build config base registry native modules feed).run events).imports[i]? =
      some ⟨states, .done (.ok served)⟩) :
    ∃ own made,
      Transparent (build config base registry native modules feed) events i served own made := by
  have hl := fresh_build config base registry native modules feed
  obtain ⟨own, made, hown, ⟨j, hmade⟩, hkey, hfp, hcomputed, nth, v, hcall, hv⟩ :=
    served_run hl events done
  have sourced := sourced_run hl events
  have sown := sourced.demands i own hown
  have smade := sourced.demands j made hmade
  have hurl : made.asset.url.text = own.asset.url.text := congrArg CacheKey.url hkey
  have htype : made.type = own.type := congrArg CacheKey.type hkey
  have hid : own.descriptor.id = made.descriptor.id := (congrArg CacheKey.handler hkey).symm
  have hnative : made.asset.media = own.asset.media →
      made.asset.nativeAvailable = own.asset.nativeAvailable := by
    intro hmedia
    have hanswer := smade.native
    rw [hmedia, htype, sown.native] at hanswer
    exact (Option.some.inj hanswer).symm
  have hyielded : made.descriptor.handler.Yields made.asset.bytes (made.asset.context made.type)
      served.made.record.exports := by
    refine ⟨v, ?_, hv⟩
    rw [functions _ smade.handler.source 0 nth, ← hcall]
    rfl
  have hexports : own.descriptor.Clash made.descriptor ∨ own.descriptor.handler.Yields made.asset.bytes
      ⟨own.asset.url.text, own.type, made.asset.media, made.asset.encoding, made.asset.nativeAvailable⟩
      served.made.record.exports := by
    refine (call_eq_of_id_eq hl numbered hown hmade hid).imp_right fun hsame => ?_
    obtain ⟨w, hw, hfields⟩ := hyielded
    refine ⟨w, ?_, hfields⟩
    -- the own handler is called as the other demand's is, with the other demand's asset
    rw [hsame, ← hurl, ← htype]
    exact hw
  refine ⟨own, made, ⟨hown, fun d hd => (linked_run hl events).once i d own hd hown⟩, ⟨j, hmade⟩, hkey,
    hurl, htype, ?_, hnative, hyielded, hexports, fun hbytes hmedia hencoding => ?_, hcomputed⟩
  · rw [← sown.content, ← smade.content, hfp]
  · rw [hbytes, hmedia, hencoding, hnative hmedia] at hexports
    exact hexports

/-! ## Other contexts -/

/-- **An import is given amiss**: a record from the cache whose exports are not what its handler yields
for it, though that handler is a function. -/
structure Amiss (l : Loader) (events : List Event) (i : Nat) (own : Demand) : Prop where
  asked : Asks l events i own
  function : own.descriptor.handler.IsFunction
  hit : ∃ states served, (l.run events).imports[i]? = some ⟨states, .done (.ok served)⟩ ∧
    served.status = .hit ∧ ¬ own.descriptor.handler.Yields own.asset.bytes
      (own.asset.context own.type) served.made.record.exports

def notes : Url where
  scheme := "file"
  authority := some {}
  path := .segments ["notes"]

/-- The content of the file, with a content type. -/
def notesAs (contentType : String) : Feed :=
  .memory { assets := [(notes.text, ⟨[0xc3, 0xa9], some contentType⟩)] } [] []

/-- A handler that exports the media type and the encoding that it is told. -/
def describer : Handler :=
  .ofFunction ⟨1⟩ "describer" [] fun _ context =>
    .ok (.object [(defaultExport, .string (context.media ++ " " ++ context.encoding.name))])

def describe (encoding : String) : ImportRequest where
  specifier := "./notes"
  url := notes
  assertion := ⟨"notes", .inline describer, some encoding⟩
  bindings := .dynamic

/-- The file is imported in one encoding, then in another, and then under another media type. -/
def threeContexts : List Event :=
  [.submit (describe "utf-8"), .pollImport 0, .pollComputation 0, .pollImport 0,
   .submit (describe "latin1"), .pollImport 1,
   .changeFeed (notesAs "text/html"), .submit (describe "utf-8"), .pollImport 2]

def notesLoader : Loader :=
  build { policy := .registryOnly } none .empty { host := ⟨fun _ _ => false, fun _ => none⟩ } {}
    (notesAs "text/plain")

/-- The record that an import has ended with. -/
def served? (l : Loader) (i : Nat) : Option Served :=
  match l.imports[i]? with
  | some ⟨_, .done (.ok served)⟩ => some served
  | _ => none

theorem imports_of_served? {served : Served} (h : l.served? i = some served) :
    ∃ states, l.imports[i]? = some ⟨states, .done (.ok served)⟩ := by
  unfold served? at h
  split at h
  next states served' hi =>
    cases h
    exact ⟨states, hi⟩
  next => cases h

/-- The text under the default export of what a handler has given. -/
def textOf? (o : Outcome) : Option String :=
  match o with
  | .value v =>
    match v.exports? with
    | .ok fields => (fields.get? defaultExport).bind Value.string?
    | .error _ => none
  | _ => none

theorem not_yields_of_text {h : Handler} {bytes : Bytes} {context : Context} {fields : Fields}
    (differ : textOf? (h.call 0 bytes context).outcome ≠
      (fields.get? defaultExport).bind Value.string?) : ¬ h.Yields bytes context fields := by
  rintro ⟨v, hv, hfields⟩
  apply differ
  unfold textOf?
  simp only [hv, hfields]

theorem isFunction_describer : describer.IsFunction :=
  fun _ _ _ _ => rfl

theorem given_threeContexts {h : Handler} (hg : Given notesLoader threeContexts h) :
    h = describer := by
  cases hg with
  | registry default => cases default
  | host offered => cases offered
  | module registered => cases registered
  | @event e happens brings =>
    unfold threeContexts at happens
    simp only [List.mem_cons, List.not_mem_nil, or_false] at happens
    rcases happens with rfl | rfl | rfl | rfl | rfl | rfl | rfl | rfl | rfl
    case inl | inr.inr.inr.inr.inl | inr.inr.inr.inr.inr.inr.inr.inl =>
      cases brings
      rfl
    all_goals exact brings.elim

/-- The describer is the only handler that was made. -/
theorem numbered_threeContexts : Numbered notesLoader threeContexts := by
  have crafted : ∀ h, Given notesLoader threeContexts h →
      h.Crafted [⟨describer.name, describer.call⟩] := by
    intro h hg
    rw [given_threeContexts hg]
    exact ⟨0, _, [], rfl, rfl⟩
  exact numbered_of_crafted (by decide) crafted

/-- The second and the third import hit the record of the first. -/
theorem hits_threeContexts :
    [1, 2].map (fun i => ((notesLoader.run threeContexts).served? i).map fun served =>
      (served.status, served.made.record.default?.bind Value.string?)) =
    [some (.hit, some "text/plain utf-8"), some (.hit, some "text/plain utf-8")] := by
  decide +kernel

/-- The third import is served as `transparent_run` says. -/
theorem transparent_threeContexts :
    ∃ states served own made,
      (notesLoader.run threeContexts).imports[2]? = some ⟨states, .done (.ok served)⟩ ∧
        Transparent notesLoader threeContexts 2 served own made := by
  have hit := (List.cons.inj (List.cons.inj hits_threeContexts).2).1
  obtain ⟨served, hs, -⟩ := Option.map_eq_some_iff.1 hit
  obtain ⟨states, done⟩ := imports_of_served? hs
  obtain ⟨own, made, ht⟩ := transparent_run _ _ _ _ _ _ threeContexts numbered_threeContexts
    (fun h hg => given_threeContexts hg ▸ isFunction_describer) done
  exact ⟨states, served, own, made, done, ht⟩

/-- An import that was given the record of the first and whose handler yields another text is given
amiss. -/
theorem amiss_of_text {own : Demand} {text : String}
    (hasks : Asks notesLoader threeContexts i own)
    (hit : ((notesLoader.run threeContexts).served? i).map (fun served =>
      (served.status, served.made.record.default?.bind Value.string?)) =
      some (.hit, some "text/plain utf-8"))
    (yields : textOf? (own.descriptor.handler.call 0 own.asset.bytes
      (own.asset.context own.type)).outcome = some text) (differ : text ≠ "text/plain utf-8") :
    Amiss notesLoader threeContexts i own := by
  obtain ⟨served, hs, hgiven⟩ := Option.map_eq_some_iff.1 hit
  obtain ⟨states, done⟩ := imports_of_served? hs
  have hsource :=
    ((sourced_run (fresh_build ..) threeContexts).demands i own hasks).handler.source
  have htext : served.made.record.default?.bind Value.string? = some "text/plain utf-8" :=
    congrArg Prod.snd hgiven
  refine ⟨hasks, given_threeContexts hsource ▸ isFunction_describer, states, served, done,
    congrArg Prod.fst hgiven, not_yields_of_text ?_⟩
  rw [yields]
  intro same
  exact differ (Option.some.inj (same.trans htext))

/-- **An import in another encoding, or of another media type, is given amiss**, and each of the two is
enough. -/
theorem amiss_threeContexts :
    ∃ made own own', Asks notesLoader threeContexts 0 made ∧
      Amiss notesLoader threeContexts 1 own ∧ own.asset.bytes = made.asset.bytes ∧
      own.asset.media = made.asset.media ∧ own.asset.encoding ≠ made.asset.encoding ∧
      Amiss notesLoader threeContexts 2 own' ∧ own'.asset.bytes = made.asset.bytes ∧
      own'.asset.media ≠ made.asset.media ∧ own'.asset.encoding = made.asset.encoding := by
  -- each demand is read off the loader right before its import's turn
  let asked (n i : Nat) : Option Demand := ((notesLoader.run (threeContexts.take n)).approach i).2
  let facts (d : Demand) := (d.asset.bytes, d.asset.media, d.asset.encoding,
    textOf? (d.descriptor.handler.call 0 d.asset.bytes (d.asset.context d.type)).outcome)
  have hmade : (asked 1 0).map facts =
      some ([0xc3, 0xa9], "text/plain", .text "utf-8", some "text/plain utf-8") := by decide +kernel
  have hown : (asked 5 1).map facts =
      some ([0xc3, 0xa9], "text/plain", .text "latin1", some "text/plain latin1") := by decide +kernel
  have hown' : (asked 8 2).map facts =
      some ([0xc3, 0xa9], "text/html", .text "utf-8", some "text/html utf-8") := by decide +kernel
  obtain ⟨made, ask, hmade⟩ := Option.map_eq_some_iff.1 hmade
  obtain ⟨own, ask₁, hown⟩ := Option.map_eq_some_iff.1 hown
  obtain ⟨own', ask₂, hown'⟩ := Option.map_eq_some_iff.1 hown'
  simp only [facts, Prod.mk.injEq] at hmade hown hown'
  have hasks : Asks notesLoader threeContexts 0 made :=
    ⟨threeContexts.take 1, .pollImport 0, threeContexts.drop 2, rfl, rfl, ask⟩
  have hasks₁ : Asks notesLoader threeContexts 1 own :=
    ⟨threeContexts.take 5, .pollImport 1, threeContexts.drop 6, rfl, rfl, ask₁⟩
  have hasks₂ : Asks notesLoader threeContexts 2 own' :=
    ⟨threeContexts.take 8, .pollImport 2, [], rfl, rfl, ask₂⟩
  obtain ⟨hbytes, hmedia, hencoding, -⟩ := hmade
  obtain ⟨hbytes₁, hmedia₁, hencoding₁, htext₁⟩ := hown
  obtain ⟨hbytes₂, hmedia₂, hencoding₂, htext₂⟩ := hown'
  have hits := List.cons.inj hits_threeContexts
  refine ⟨made, own, own', hasks, ?_, hbytes₁.trans hbytes.symm, hmedia₁.trans hmedia.symm, ?_,
    ?_, hbytes₂.trans hbytes.symm, ?_, hencoding₂.trans hencoding.symm⟩
  · exact amiss_of_text hasks₁ hits.1 htext₁ (by decide)
  · rw [hencoding₁, hencoding]
    decide
  · exact amiss_of_text hasks₂ (List.cons.inj hits.2).1 htext₂ (by decide)
  · rw [hmedia₂, hmedia]
    decide

end Loader

end TypedImport
