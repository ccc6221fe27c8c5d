import TypedImport.Proofs.Loader.Sources

/-!
# What a handler's identity tells

Records are shared between imports whose handlers have one identity. An identity is a number, given out when a
handler is made and shared by all copies of it, or it is derived from the path of a module. `Identified` says
that this is sound: two handlers that were resolved with one identity are copies of one that was made.

**The program around a loader.** Handlers are made anywhere in the program, and whatever comes to the loader
has been made by then (`Lawful`). Making a module may take a while, in which other things happen: an attempt
that comes to its end is an event of its own (`settle`), and the import that waited for it goes on from there
with what is kept for the path.

**One handler for a path.** The first good module of a path is kept and no later one takes its place
(`find?_run`), so every import that names the path gets the handler of that module.
-/

namespace TypedImport

/-- **What makes a handler**: a name, and what happens when it is called. -/
structure Making where
  name : String
  call : (nth : Nat) → Bytes → Context → Call

/-- The handler that is made after `n` others. It takes every type. -/
def Making.handler (m : Making) (n : Nat) : Handler :=
  ⟨.allocate n, m.name, [], m.call⟩

/-- **A handler is a copy of the one that was made as number `n`**, for the types that it declares by now. -/
def Handler.IsCopy (made : List Making) (n : Nat) (h : Handler) : Prop :=
  ∃ m types, made[n]? = some m ∧ h = { m.handler n with types := types }

/-- A handler was made in the program. -/
def Handler.Crafted (made : List Making) (h : Handler) : Prop :=
  ∃ n, h.IsCopy made n

namespace Handler.IsCopy

variable {made : List Making} {n n' : Nat} {h h' : Handler}

theorem id (hc : h.IsCopy made n) : h.id = .allocate n := by
  obtain ⟨m, types, -, rfl⟩ := hc
  rfl

theorem lt (hc : h.IsCopy made n) : n < made.length := by
  obtain ⟨m, types, hm, -⟩ := hc
  exact (List.getElem?_eq_some_iff.1 hm).1

theorem append (hc : h.IsCopy made n) (more : List Making) : h.IsCopy (made ++ more) n := by
  obtain ⟨m, types, hm, rfl⟩ := hc
  refine ⟨m, types, ?_, rfl⟩
  rw [List.getElem?_append_left (List.getElem?_eq_some_iff.1 hm).1, hm]

/-- **Copies of one handler are called alike.** -/
theorem call_eq (hc : h.IsCopy made n) (hc' : h'.IsCopy made n) : h.call = h'.call := by
  obtain ⟨m, types, hm, rfl⟩ := hc
  obtain ⟨m', types', hm', rfl⟩ := hc'
  rw [hm] at hm'
  cases hm'
  rfl

/-- A copy that is restricted to other types is a copy. -/
theorem withTypes (hc : h.IsCopy made n) (types : List String) : (h.withTypes types).IsCopy made n := by
  obtain ⟨m, types', hm, rfl⟩ := hc
  exact ⟨m, TypeSet.ofList types, hm, rfl⟩

end Handler.IsCopy

theorem Handler.Crafted.append {made : List Making} {h : Handler} (hc : h.Crafted made)
    (more : List Making) : h.Crafted (made ++ more) := by
  obtain ⟨n, hn⟩ := hc
  exact ⟨n, hn.append more⟩

namespace HandlerId

/-- **Numbers are given out once**, as long as they fit. -/
theorem allocate_inj {n n' : Nat} (hn : n < 2 ^ 63) (hn' : n' < 2 ^ 63)
    (h : allocate n = allocate n') : n = n' := by
  have hraw := congrArg (fun id : HandlerId => id.raw.toNat) h
  simp only [allocate] at hraw
  rw [UInt64.toNat_ofNat_of_lt' (by simp [UInt64.size]; omega),
    UInt64.toNat_ofNat_of_lt' (by simp [UInt64.size]; omega)] at hraw
  omega

theorem isNumber_allocate {n : Nat} (hn : n + 1 < 2 ^ 63) : (allocate n).IsNumber := by
  unfold IsNumber allocate
  rw [UInt64.lt_iff_toNat_lt, UInt64.toNat_ofNat_of_lt' (by simp [UInt64.size]; omega)]
  exact hn

/-- **A derived identity is no number that was given out.** -/
theorem derive_ne_allocate (origin : Origin) (key : String) {n : Nat} (hn : n + 1 < 2 ^ 63) :
    derive origin key ≠ allocate n := by
  intro h
  exact not_isNumber_derive origin key (h ▸ isNumber_allocate hn)

end HandlerId

/-- **Copies with one number are of one handler**, as long as numbers fit. -/
theorem Handler.IsCopy.number_inj {made : List Making} {n n' : Nat} {h h' : Handler}
    (hc : h.IsCopy made n) (hc' : h'.IsCopy made n') (few : made.length < 2 ^ 63)
    (same : HandlerId.allocate n = .allocate n') : n = n' :=
  HandlerId.allocate_inj (Nat.lt_trans hc.lt few) (Nat.lt_trans hc'.lt few) same

/-- **The paths that a resolver has kept a module for are told apart** by their derived identities. -/
def Resolver.Distinguishes (r : Resolver) : Prop :=
  ∀ p q, (r.memo.find? p).isSome = true → (r.memo.find? q).isSome = true →
    HandlerId.derive .externalModule p = HandlerId.derive .externalModule q → p = q

/-! ## A loader and the program around it -/

/-- **A loader, and the handlers that were made** in the program. -/
structure Session where
  made : List Making := []
  loader : Loader

namespace Session

/-- **Something that happens in the program.** -/
inductive Event where
  /-- A handler is made. -/
  | make (m : Making)
  | loader (e : Loader.Event)
  /-- An attempt to make the module of a path comes to its end. -/
  | settle (path url type : String) (result : Except Failure HandlerModule)

def after (s : Session) : Event → Session
  | .make m => { s with made := s.made ++ [m] }
  | .loader e => { s with loader := s.loader.after e }
  | .settle path url type result =>
    { s with
      loader := { s.loader with resolver := (s.loader.resolver.settleModule path url type result).2 } }

def run (s : Session) (events : List Event) : Session :=
  events.foldl after s

/-- **An event brings a handler to the loader.** -/
def Event.Brings : Event → Handler → Prop
  | .make _, _ => False
  | .loader e, handler => e.Brings handler
  | .settle _ _ _ result, handler => ∃ m, result = .ok m ∧ m.Offers handler

variable {s : Session} {e : Event} {events : List Event} {reference reference' : AssertedHandler}
  {d d' : Descriptor} {path : String}

/-- **The resolver returns a descriptor** in an event: a turn of an import finds it, or an attempt to make a
module ends well, whether or not the descriptor takes the type in the end. -/
inductive Returns (s : Session) : Event → AssertedHandler → Descriptor → Prop where
  | found {i : Nat} {request : ImportRequest} {d : Descriptor} (finds : s.loader.Finds i request d) :
      Returns s (.loader (.pollImport i)) request.assertion.handler d
  | settled {path url type : String} {result : Except Failure HandlerModule} {d : Descriptor}
      (settles : (s.loader.resolver.settleModule path url type result).1 = .ok d) :
      Returns s (.settle path url type result) (.module path) d

/-- **A descriptor was returned in a run** for what an import said of its handler. -/
def Returned (s : Session) (events : List Event) (reference : AssertedHandler) (d : Descriptor) : Prop :=
  Happened (fun before e => (s.run before).Returns e reference d) events

/-- **A run in which handlers come to a loader after they have been made.** -/
structure Lawful (s : Session) (events : List Event) : Prop where
  fresh : s.loader.Fresh
  given : s.loader.resolver.Known (Handler.Crafted s.made)
  brings : ∀ before e later, events = before ++ e :: later →
    ∀ handler, e.Brings handler → handler.Crafted (s.run before).made

theorem run_concat (s : Session) (events : List Event) (e : Event) :
    s.run (events ++ [e]) = (s.run events).after e := by
  simp [run]

theorem Lawful.concat_left (h : Lawful s (events ++ [e])) : Lawful s events where
  fresh := h.fresh
  given := h.given
  brings before e' later heq := h.brings before e' (later ++ [e]) (by simp [heq])

/-! ## What stays -/

theorem crafted_after {h : Handler} (hc : h.Crafted s.made) (e : Event) : h.Crafted (s.after e).made := by
  cases e with
  | make m => exact hc.append [m]
  | loader e => exact hc
  | settle path url type result => exact hc

/-- **What is kept for a path stays.** -/
theorem find?_after (h : s.loader.resolver.memo.find? path = some d) (e : Event) :
    (s.after e).loader.resolver.memo.find? path = some d := by
  cases e with
  | make m => exact h
  | loader e => exact (Loader.moves_after s.loader e).remembers.memo path d h
  | settle path' url type result =>
    show (s.loader.resolver.settleModule path' url type result).2.memo.find? path = some d
    rcases Resolver.settleModule_cases s.loader.resolver path' url type result with
      ⟨error, heq⟩ | ⟨m, handler, types, -, -, heq⟩
    · rw [heq]
      exact h
    · rw [heq]
      exact Resolver.find?_keep_of_some h handler types

theorem find?_run {before : List Event} (h : (s.run before).loader.resolver.memo.find? path = some d)
    (later : List Event) : (s.run (before ++ later)).loader.resolver.memo.find? path = some d := by
  induction later using List.reverseRecOn with
  | nil => rwa [List.append_nil]
  | append_singleton later e ih =>
    rw [← List.append_assoc, run_concat]
    exact find?_after ih e

theorem crafted_run {h : Handler} (hc : h.Crafted s.made) (events : List Event) :
    h.Crafted (s.run events).made := by
  induction events using List.reverseRecOn with
  | nil => exact hc
  | append_singleton events e ih =>
    rw [run_concat]
    exact crafted_after ih e

/-- A run is lawful if all that its events bring was made before it. -/
theorem lawful_of_made (fresh : s.loader.Fresh) (given : s.loader.resolver.Known (Handler.Crafted s.made))
    (brings : ∀ e ∈ events, ∀ handler, e.Brings handler → handler.Crafted s.made) : Lawful s events where
  fresh := fresh
  given := given
  brings before e later heq handler hb := by
    have hmem : e ∈ events := heq ▸ List.mem_append_right before List.mem_cons_self
    exact crafted_run (brings e hmem handler hb) before

/-- **The handlers at hand were made**: those that the resolver has and those that imports carry. -/
structure Upheld (s : Session) : Prop where
  known : s.loader.resolver.Known (Handler.Crafted s.made)
  stages : ∀ (i : Nat) (imp : Import), s.loader.imports[i]? = some imp →
    imp.stage.Sourced (Handler.Crafted s.made) s.loader.resolver

theorem Upheld.after (h : s.Upheld) (brings : ∀ handler, e.Brings handler → handler.Crafted s.made) :
    (s.after e).Upheld := by
  cases e with
  | make m =>
    have more : ∀ handler : Handler, handler.Crafted s.made → handler.Crafted (s.made ++ [m]) :=
      fun handler hc => hc.append [m]
    exact ⟨h.known.mono more, fun i imp hi => (h.stages i imp hi).later (.refl _) more⟩
  | loader e =>
    have supplied := Loader.supplied_after h.known h.stages brings
    refine ⟨supplied.keeps, fun i imp hi => ?_⟩
    rcases supplied.stages i imp hi with hold | hnew
    · exact (h.stages i imp hold).later supplied.remembers fun _ hc => hc
    · exact hnew
  | settle path url type result =>
    have settled := Resolver.resolution_settleModule h.known path url type
      fun m handler hm ho => brings handler ⟨m, hm, ho⟩
    exact ⟨settled.keeps, fun i imp hi => (h.stages i imp hi).later settled.remembers fun _ hc => hc⟩

theorem upheld_run (h : Lawful s events) : (s.run events).Upheld := by
  induction events using List.reverseRecOn with
  | nil =>
    refine ⟨h.given, fun i imp hi => ?_⟩
    rw [show (s.run []).loader.imports = [] from h.fresh.imports] at hi
    cases hi
  | append_singleton events e ih =>
    rw [run_concat]
    exact (ih h.concat_left).after (h.brings events e [] rfl)

/-! ## What is returned -/

/-- **What is known of a descriptor that was returned**: it has the identity of its handler, which was made, or
it is kept for the path that was named. -/
inductive Accounts (s : Session) : AssertedHandler → Descriptor → Prop where
  | numbered {reference : AssertedHandler} {d : Descriptor} (unnamed : ∀ path, reference ≠ .module path)
      (id : d.id = d.handler.id) (crafted : d.handler.Crafted s.made) : Accounts s reference d
  | kept {path : String} {d : Descriptor} (kept : s.loader.resolver.memo.find? path = some d) :
      Accounts s (.module path) d

theorem Accounts.after (h : s.Accounts reference d) (e : Event) : (s.after e).Accounts reference d := by
  cases h with
  | numbered unnamed id crafted => exact .numbered unnamed id (crafted_after crafted e)
  | kept kept => exact .kept (find?_after kept e)

theorem Accounts.find? (h : s.Accounts (.module path) d) : s.loader.resolver.memo.find? path = some d := by
  cases h with
  | numbered unnamed => exact absurd rfl (unnamed path)
  | kept kept => exact kept

/-- A request for which a descriptor is found brings a handler that was made, if it brings one. -/
theorem Upheld.inline_of_finds (h : s.Upheld) {i : Nat} {request : ImportRequest}
    (finds : s.loader.Finds i request d) : request.Inline (Handler.Crafted s.made) := by
  cases finds with
  | early begun => exact h.stages i _ begun
  | atOnce begun => exact h.stages i _ begun
  | late waited => exact (h.stages i _ waited).1

theorem Upheld.accounts_of_returns (h : s.Upheld) (returns : s.Returns e reference d) :
    (s.after e).Accounts reference d := by
  cases returns with
  | @found i request d finds =>
    have inline : ∀ handler, request.assertion.handler = .inline handler → handler.Crafted s.made :=
      h.inline_of_finds finds
    have chosen := (Loader.chooses_of_finds finds).2
    have kept : ∀ path, request.assertion.handler = .module path →
        (s.after (.loader (.pollImport i))).loader.resolver.memo.find? path = some d :=
      fun path named => Loader.kept_of_finds finds named
    generalize request.assertion.handler = reference at inline chosen kept
    cases chosen with
    | inline handler => exact .numbered (fun _ h => by cases h) rfl (inline handler rfl)
    | kept => exact .kept (kept _ rfl)
    | made => exact .kept (kept _ rfl)
    | default default =>
      exact .numbered (fun _ h => by cases h) (s.loader.resolver.registry.identity _ d default)
        (h.known.registry _ d default)
    | native offered => exact .numbered (fun _ h => by cases h) rfl (h.known.host _ _ offered)
  | @settled path url type result d settles =>
    refine .kept ?_
    show (s.loader.resolver.settleModule path url type result).2.memo.find? path = some d
    rcases Resolver.settleModule_cases s.loader.resolver path url type result with
      ⟨error, heq⟩ | ⟨m, handler, types, -, -, heq⟩
    · rw [heq] at settles
      cases settles
    · rw [heq] at settles ⊢
      cases settles
      show (s.loader.resolver.memo.keep path handler types).2.find? path = _
      rw [Resolver.find?_keep, if_pos rfl]

theorem accounts_of_returned (h : Lawful s events) (returned : Returned s events reference d) :
    (s.run events).Accounts reference d := by
  induction events using List.reverseRecOn with
  | nil => exact (not_happened_nil returned).elim
  | append_singleton events e ih =>
    rw [run_concat]
    rcases happened_concat.1 returned with hold | hnew
    · exact (ih h.concat_left hold).after e
    · exact (upheld_run h.concat_left).accounts_of_returns hnew

/-! ## Identities -/

/-- **What the identities of a run tell.** -/
structure Identified (s : Session) (events : List Event) : Prop where
  /-- Two descriptors that were returned with one identity are of copies of one handler. -/
  same : ∀ reference reference' d d', Returned s events reference d → Returned s events reference' d' →
    d.id = d'.id → ∃ n, d.handler.IsCopy (s.run events).made n ∧ d'.handler.IsCopy (s.run events).made n
  /-- So the same happens when they are called. -/
  call : ∀ reference reference' d d', Returned s events reference d → Returned s events reference' d' →
    d.id = d'.id → d.handler.call = d'.handler.call
  /-- A derived identity is none that was given out. -/
  apart : ∀ origin key n, n < (s.run events).made.length → HandlerId.derive origin key ≠ .allocate n
  /-- What is returned for a path is what is kept for it at any time from the first good module on. -/
  first : ∀ before later path d d', events = before ++ later →
    (s.run before).loader.resolver.memo.find? path = some d → Returned s events (.module path) d' → d' = d
  /-- All that is returned for a path is the same. -/
  path : ∀ path d d', Returned s events (.module path) d → Returned s events (.module path) d' → d = d'

/-- **The identity of a descriptor that was returned** is the number of its handler, or is derived from its
path. -/
theorem Upheld.id_of_accounts (h : s.Upheld) (accounts : s.Accounts reference d) :
    (∃ n, d.handler.IsCopy s.made n ∧ d.id = .allocate n) ∨
      ∃ path n, reference = .module path ∧ s.loader.resolver.memo.find? path = some d ∧
        d.handler.IsCopy s.made n ∧ d.id = HandlerId.derive .externalModule path := by
  cases accounts with
  | numbered unnamed id crafted =>
    obtain ⟨n, hn⟩ := crafted
    exact .inl ⟨n, hn, id.trans hn.id⟩
  | @kept path _ kept =>
    obtain ⟨hpath, n, hn⟩ := h.known.memo path d kept
    exact .inr ⟨path, n, rfl, kept, hn, hpath.id⟩

/-- **One identity is of one handler**, as long as numbers fit and paths are told apart. -/
theorem Upheld.copies_of_id_eq (h : s.Upheld) (few : s.made.length < 2 ^ 63)
    (distinct : s.loader.resolver.Distinguishes) (accounts : s.Accounts reference d)
    (accounts' : s.Accounts reference' d') (hid : d.id = d'.id) :
    ∃ n, d.handler.IsCopy s.made n ∧ d'.handler.IsCopy s.made n := by
  have apart : ∀ origin key n, n < s.made.length → HandlerId.derive origin key ≠ .allocate n :=
    fun origin key n hn => HandlerId.derive_ne_allocate origin key (Nat.lt_of_le_of_lt hn few)
  rcases h.id_of_accounts accounts with ⟨n, hn, hnumber⟩ | ⟨p, n, -, hp, hn, hderived⟩
  · rcases h.id_of_accounts accounts' with ⟨n', hn', hnumber'⟩ | ⟨q, n', -, -, -, hderived'⟩
    · have same : n = n' := hn.number_inj hn' few (hnumber.symm.trans (hid.trans hnumber'))
      exact ⟨n, hn, same ▸ hn'⟩
    · exact absurd (hderived'.symm.trans (hid.symm.trans hnumber)) (apart _ q n hn.lt)
  · rcases h.id_of_accounts accounts' with ⟨n', hn', hnumber'⟩ | ⟨q, n', -, hq, -, hderived'⟩
    · exact absurd (hderived.symm.trans (hid.trans hnumber')) (apart _ p n' hn'.lt)
    · -- the two paths are one, and one descriptor is kept for it
      have same : p = q := by
        refine distinct p q ?_ ?_ (hderived.symm.trans (hid.trans hderived'))
        · rw [hp, Option.isSome_some]
        · rw [hq, Option.isSome_some]
      rw [← same, hp] at hq
      cases hq
      exact ⟨n, hn, hn⟩

/-- **Identities are sound**: whatever happens, equal identities are of copies of one handler. -/
theorem identified_run (lawful : Lawful s events) (few : (s.run events).made.length < 2 ^ 63)
    (distinct : (s.run events).loader.resolver.Distinguishes) : Identified s events := by
  have upheld := upheld_run lawful
  have accounts : ∀ {reference d}, Returned s events reference d → (s.run events).Accounts reference d :=
    fun returned => accounts_of_returned lawful returned
  constructor
  case same =>
    intro reference reference' d d' hd hd' hid
    exact upheld.copies_of_id_eq few distinct (accounts hd) (accounts hd') hid
  case call =>
    intro reference reference' d d' hd hd' hid
    obtain ⟨n, hn, hn'⟩ := upheld.copies_of_id_eq few distinct (accounts hd) (accounts hd') hid
    exact hn.call_eq hn'
  case apart =>
    intro origin key n hn
    exact HandlerId.derive_ne_allocate origin key (Nat.lt_of_le_of_lt hn few)
  case first =>
    intro before later path d d' heq hkept hd'
    have hlast := (accounts hd').find?
    rw [heq, find?_run hkept later] at hlast
    exact (Option.some.inj hlast).symm
  case path =>
    intro path d d' hd hd'
    exact Option.some.inj ((accounts hd).find?.symm.trans (accounts hd').find?)

/-! ## A run with handlers from everywhere -/

def page : Url where
  scheme := "file"
  authority := some {}
  path := .segments ["page"]

/-- A handler that exports its name. -/
def namesake (name : String) : Making where
  name := name
  call _ _ _ := .started (.finish (.value (.object [(defaultExport, .string name)])))

def first : Handler :=
  (namesake "first").handler 0

def second : Handler :=
  (namesake "second").handler 1

/-- Two handlers were made. The host has the first, for one type, and a module has the second. -/
def program : Session where
  made := [namesake "first", namesake "second"]
  loader := Loader.build { policy := .nativeOnRegistryMiss } none .empty
    { host := ⟨fun _ _ => true, fun t => if t = "json" then some first else none⟩ }
    { modules := [("./early.js", .ok (.ofHandler second))] }
    (.memory { assets := [(page.text, ⟨[], none⟩)] } [] [])

def pageAs (type : String) (handler : AssertedHandler) : ImportRequest where
  specifier := "./page"
  url := page
  assertion := ⟨type, handler, none⟩
  bindings := .dynamic

/-- The page is imported with a default, with a handler of its own, with the host's handler and with that of a
module; a handler more is made, and another module comes after a while. -/
def fourWays : List Event :=
  [.loader (.define ["csv"] first),
   .loader (.submit (pageAs "csv" .absent)), .loader (.pollImport 0),
   .loader (.submit (pageAs "csv" (.inline (first.withTypes ["csv"])))), .loader (.pollImport 1),
   .loader (.submit (pageAs "json" .absent)), .loader (.pollImport 2),
   .loader (.submit (pageAs "csv" (.module "./early.js"))), .loader (.pollImport 3),
   .make (namesake "third"),
   .settle "./late.js" page.text "csv" (.ok (.ofHandler second))]

theorem isCopy_first : first.IsCopy program.made 0 :=
  ⟨namesake "first", [], rfl, rfl⟩

theorem isCopy_second : second.IsCopy program.made 1 :=
  ⟨namesake "second", [], rfl, rfl⟩

theorem eq_of_offers_ofHandler {h h' : Handler} (ho : (HandlerModule.ofHandler h).Offers h') : h' = h := by
  obtain ⟨arity, harity⟩ := ho
  cases harity
  rfl

theorem lawful_fourWays : Lawful program fourWays := by
  refine lawful_of_made (Loader.fresh_build ..) ⟨?registry, ?host, ?modules, ?memo⟩ ?brings
  case registry =>
    intro t d hd
    cases hd
  case host =>
    intro t h hh
    change (if t = "json" then some first else none) = some h at hh
    split at hh
    · cases hh
      exact ⟨0, isCopy_first⟩
    · cases hh
  case modules =>
    intro path m h hm ho
    change Table.get? [("./early.js", Except.ok (HandlerModule.ofHandler second))] path = _ at hm
    rw [Table.get?_cons] at hm
    split at hm
    · cases hm
      exact ⟨1, eq_of_offers_ofHandler ho ▸ isCopy_second⟩
    · cases hm
  case memo =>
    intro path d hd
    cases hd
  case brings =>
    unfold fourWays
    simp only [List.forall_mem_cons]
    refine ⟨?defined, ?_, ?_, ?own, ?_, ?_, ?_, ?_, ?_, ?_, ?settled, List.forall_mem_nil _⟩
    case defined =>
      intro h hb
      cases hb
      exact ⟨0, isCopy_first⟩
    case own =>
      intro h hb
      cases hb
      exact ⟨0, isCopy_first.withTypes ["csv"]⟩
    case settled =>
      intro h hb
      obtain ⟨m, hm, ho⟩ := hb
      cases hm
      exact ⟨1, eq_of_offers_ofHandler ho ▸ isCopy_second⟩
    all_goals
      intro h hb
      cases hb

theorem distinguishes_fourWays : (program.run fourWays).loader.resolver.Distinguishes := by
  have paths : (program.run fourWays).loader.resolver.memo.map Prod.fst = ["./late.js", "./early.js"] := by
    decide +kernel
  have apart : HandlerId.derive .externalModule "./late.js" ≠ HandlerId.derive .externalModule "./early.js" := by
    decide +kernel
  have kept : ∀ p, ((program.run fourWays).loader.resolver.memo.find? p).isSome = true →
      p = "./late.js" ∨ p = "./early.js" := by
    intro p hp
    obtain ⟨d, hd⟩ := Option.isSome_iff_exists.1 hp
    have hmem := List.mem_map_of_mem (f := Prod.fst) (Table.mem_of_get? hd)
    rw [paths] at hmem
    simpa using hmem
  intro p q hp hq hid
  rcases kept p hp with rfl | rfl
  · rcases kept q hq with rfl | rfl
    · rfl
    · exact absurd hid apart
  · rcases kept q hq with rfl | rfl
    · exact absurd hid.symm apart
    · rfl

/-- The run has handlers of every origin, and its identities are sound. -/
theorem identified_fourWays : Identified program fourWays :=
  identified_run lawful_fourWays (by decide +kernel) distinguishes_fourWays

end Session

end TypedImport
