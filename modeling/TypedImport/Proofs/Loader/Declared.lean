import TypedImport.Proofs.Handler.Declaration
import TypedImport.Proofs.Loader.Choices

/-!
# On which types handlers are called

A handler declares the types that it takes, and an import asserts one. A handler that is called for an import
supports its type, unless it is of a module that lists types of its own: those are taken for the handler's,
whatever it declares (`declared_run`).

**By origin.** What a descriptor takes is what its handler declares (`Descriptor.Faithful`) where the handler
comes with the import, from the host, from a module without a list, or is a default: a definition is refused
for types that the handler does not support. `Accountable` says so of all that a resolver has, and every event
keeps it.
-/

namespace TypedImport

namespace Loader

variable {l : Loader} {e : Event} {events : List Event} {i : Nat} {request : ImportRequest}
  {d : Descriptor} {comp : Computation}

/-! ## Modules that list types -/

/-- **A run is given a module for a path**: the loader has it from the beginning, or an event brings it. -/
def Provided (l : Loader) (events : List Event) (path : String) (m : HandlerModule) : Prop :=
  l.resolver.modules.modules.get? path = some (.ok m) ∨ .registerModule path (.ok m) ∈ events

theorem Provided.append {path : String} {m : HandlerModule} (h : Provided l events path m)
    (later : List Event) : Provided l (events ++ later) path m :=
  h.imp_right (List.mem_append_left later)

/-- **A descriptor is of a module that lists types**: it takes those, whatever its handler declares. -/
structure Relisted (l : Loader) (events : List Event) (path : String) (d : Descriptor)
    (types : List String) : Prop where
  module : ∃ m, Provided l events path m ∧ m.Relists d.handler types
  types : d.types = TypeSet.ofList types

/-- What a module is resolved to: its handler for the declared types, or for those that the module lists. -/
def Declares (l : Loader) (events : List Event) (path : String) (d : Descriptor) : Prop :=
  d.Faithful ∨ ∃ types, Relisted l events path d types

theorem Declares.append {path : String} (h : Declares l events path d) (later : List Event) :
    Declares l (events ++ later) path d := by
  refine h.imp_right ?_
  intro listed
  obtain ⟨types, ⟨m, hm, hlists⟩, htypes⟩ := listed
  exact ⟨types, ⟨m, hm.append later, hlists⟩, htypes⟩

/-- **All that a resolver has takes the declared types**, or those that a module of the run lists. -/
structure Accountable (l : Loader) (events : List Event) (r : Resolver) : Prop where
  registry : ∀ t d, r.registry.forType? t = some d → d.Faithful
  modules : ∀ path m, r.modules.modules.get? path = some (.ok m) → Provided l events path m
  memo : ∀ path d, r.memo.find? path = some d → Declares l events path d

theorem Accountable.append {r : Resolver} (h : Accountable l events r) (later : List Event) :
    Accountable l (events ++ later) r where
  registry := h.registry
  modules path m hm := (h.modules path m hm).append later
  memo path d hd := (h.memo path d hd).append later

theorem Accountable.declares_of_gives {r : Resolver} (h : Accountable l events r) {path : String}
    (gives : r.Gives path d) : Declares l events path d := by
  obtain ⟨n, m, handler, set, hm, hv, rfl⟩ := gives
  rcases HandlerModule.types_of_verify hv with hown | ⟨types, hlists, hset⟩
  · exact .inl (Descriptor.faithful_of_types hown)
  · exact .inr ⟨types, ⟨m, h.modules path m hm, hlists⟩, hset⟩

theorem Accountable.proceeds {r r' : Resolver} (h : Accountable l events r) (hr : r.Proceeds r') :
    Accountable l events r' where
  registry := hr.registry ▸ h.registry
  modules := hr.modules ▸ h.modules
  memo path d hd := by
    rcases hr.adds path d hd with hold | hgives
    · exact h.memo path d hold
    · exact h.declares_of_gives hgives

theorem Accountable.define {r : Resolver} (h : Accountable l events r) (types : List String)
    (handler : Handler) : Accountable l events (r.define types handler).2 := by
  unfold Resolver.define
  split
  next d registry defined => exact ⟨Registry.faithful_of_define h.registry defined, h.modules, h.memo⟩
  next => exact h

/-- **Every event keeps a resolver accountable.** -/
theorem Accountable.concat {r r' : Resolver} (h : Accountable l events r) (moves : Moves r e r') :
    Accountable l (events ++ [e]) r' := by
  have grown := h.append [e]
  cases moves with
  | proceeds proceeds => exact grown.proceeds proceeds
  | define types handler => exact grown.define types handler
  | registerModule path result =>
    refine ⟨grown.registry, fun other m hm => ?_, grown.memo⟩
    change (r.modules.modules.put path result).get? other = some (.ok m) at hm
    rw [Table.get?_put] at hm
    split at hm
    next hpath =>
      cases hm
      exact .inr (hpath ▸ List.mem_append_right events (List.mem_singleton_self _))
    next => exact grown.modules other m hm
  | changeHost host => exact ⟨grown.registry, grown.modules, grown.memo⟩

theorem accountable_run (hl : l.Fresh)
    (faithful : ∀ t d, l.resolver.registry.forType? t = some d → d.Faithful) (events : List Event) : Accountable l events (l.run events).resolver := by
  induction events using List.reverseRecOn with
  | nil =>
    refine ⟨faithful, fun path m hm => .inl hm, fun path d hd => ?_⟩
    rw [show (l.run []).resolver.memo = [] from hl.memo] at hd
    cases hd
  | append_singleton events e ih =>
    rw [run_concat]
    exact ih.concat (moves_after (l.run events) e)

/-! ## Calls -/

/-- **The handler of a computation is called**: the computation has its first turn. -/
def Calls (l : Loader) (events : List Event) (comp : Computation) : Prop :=
  Happened (fun before e => ∃ c, e = .pollComputation c ∧ (l.run before).computations[c]? = some comp ∧
    comp.stage = .begun) events

/-- **A handler oversteps what it declares** for a request: the request names a module that lists types of its
own, and among them is the type. -/
def Oversteps (l : Loader) (events : List Event) (request : ImportRequest) (d : Descriptor) : Prop :=
  ∃ path types, request.assertion.handler = .module path ∧ Relisted l events path d types ∧
    d.supports request.type = true

/-- **A call and the import that it was made for.** -/
structure CalledFor (l : Loader) (events : List Event) (comp : Computation) (i : Nat)
    (request : ImportRequest) : Prop where
  ordered : Ordered l events i request
  resolved : Resolved l events i request comp.descriptor
  type : comp.key.type = request.type

/-- **A handler that is resolved for an import takes its type**, by its own declaration or by the list of its
module. -/
theorem supports_of_resolved (hl : l.Fresh)
    (faithful : ∀ t d, l.resolver.registry.forType? t = some d → d.Faithful)
    (h : Resolved l events i request d) :
    d.handler.supports request.type = true ∨ Oversteps l events request d := by
  obtain ⟨before, e, later, rfl, rfl, hfinds⟩ := h
  obtain ⟨hsupports, hchosen⟩ := chooses_of_finds hfinds
  have accountable := accountable_run hl faithful before
  have declared : ∀ path, request.assertion.handler = .module path → Declares l before path d →
      d.handler.supports request.type = true ∨
        Oversteps l (before ++ .pollImport i :: later) request d := by
    intro path named hdeclares
    rcases hdeclares.append (.pollImport i :: later) with hfaithful | ⟨types, hlisted⟩
    · exact .inl (hfaithful _ hsupports)
    · exact .inr ⟨path, types, named, hlisted, hsupports⟩
  generalize hnamed : request.assertion.handler = reference at hchosen declared
  cases hchosen with
  | inline handler => exact .inl hsupports
  | @kept path _ kept => exact declared path rfl (accountable.memo path d kept)
  | @made path _ _ gives => exact declared path rfl (accountable.declares_of_gives gives)
  | default default => exact .inl (accountable.registry _ d default _ hsupports)
  | native => exact .inl hsupports

theorem calledFor_of_calls (hl : l.Fresh) (h : Calls l events comp) :
    ∃ i request, CalledFor l events comp i request := by
  obtain ⟨before, e, later, rfl, c, rfl, hc, -⟩ := h
  obtain ⟨i, d, hasks, hof⟩ := (linked_run hl before).made c comp hc
  obtain ⟨request, fetched, hordered, hresolved, hfetches⟩ := (traced_run hl before).demands i d hasks
  have hrequest : Resolved l before i request comp.descriptor := by
    rw [hof.descriptor]
    exact (hresolved d.descriptor).2 rfl
  refine ⟨i, request, hordered.append _, hrequest.append _, ?_⟩
  rw [hof.key]
  exact (isOf_of_fetches hfetches).type

/-- **A handler that is called for an import declares its type**, or the import names a module that lists the
type. The registry may be any that definitions lead to. -/
theorem declared_run (hl : l.Fresh) {definitions : List Registry.Event}
    (defined : l.resolver.registry = (Registry.InUse.run definitions).registry)
    (called : Calls l events comp) :
    (∃ i request, CalledFor l events comp i request) ∧
      ∀ i request, CalledFor l events comp i request →
        comp.descriptor.handler.supports comp.key.type = true ∨ Oversteps l events request comp.descriptor := by
  refine ⟨calledFor_of_calls hl called, fun i request hfor => ?_⟩
  rw [hfor.type]
  refine supports_of_resolved hl ?_ hfor.resolved
  rw [defined]
  exact Registry.InUse.faithful_run definitions

/-! ## A module that lists other types -/

def sheet : Url where
  scheme := "file"
  authority := some {}
  path := .segments ["sheet"]

/-- A handler that declares the type `csv`. -/
def csvHandler : Handler :=
  .ofFunction ⟨1⟩ "csv" ["csv"] fun _ _ => .ok (.object [])

/-- The handler as the default export of a module that lists `tsv`. -/
def tsvModule : HandlerModule :=
  (HandlerModule.ofHandler csvHandler).withExport HandlerModule.typesExport (.value (.array [.string "tsv"]))

def sheetLoader : Loader :=
  build { policy := .registryOnly } none .empty { host := ⟨fun _ _ => false, fun _ => none⟩ }
    { modules := [("./tsv.js", .ok tsvModule)] } (.memory { assets := [(sheet.text, ⟨[], none⟩)] } [] [])

def sheetAs (type : String) (handler : AssertedHandler) : ImportRequest where
  specifier := "./sheet"
  url := sheet
  assertion := ⟨type, handler, none⟩
  bindings := .dynamic

/-- The sheet is imported once with the handler itself and once with the module. -/
def twoSheets : List Event :=
  [.submit (sheetAs "csv" (.inline csvHandler)), .pollImport 0, .pollComputation 0,
   .submit (sheetAs "tsv" (.module "./tsv.js")), .pollImport 1, .pollComputation 1]

/-- A computation that has not begun, with its handler's types and the type of its import. -/
def unbegun? (l : Loader) (c : Nat) : Option (TypeSet × String) :=
  match l.computations[c]? with
  | some comp =>
    match comp.stage with
    | .begun => some (comp.descriptor.handler.types, comp.key.type)
    | _ => none
  | none => none

theorem calls_of_unbegun? {before : List Event} {c : Nat} {types : TypeSet} {type : String}
    (h : (l.run before).unbegun? c = some (types, type)) (later : List Event) :
    ∃ comp, Calls l (before ++ .pollComputation c :: later) comp ∧
      comp.descriptor.handler.types = types ∧ comp.key.type = type := by
  unfold unbegun? at h
  split at h
  next comp hc =>
    split at h
    next hbegun =>
      cases h
      exact ⟨comp, ⟨before, _, later, rfl, c, rfl, hc, hbegun⟩, rfl, rfl⟩
    next => cases h
  next => cases h

/-- The first call is as `declared_run` says. -/
theorem declared_twoSheets :
    ∃ comp, Calls sheetLoader twoSheets comp ∧ comp.key.type = "csv" ∧
      (∃ i request, CalledFor sheetLoader twoSheets comp i request) ∧
      ∀ i request, CalledFor sheetLoader twoSheets comp i request →
        comp.descriptor.handler.supports comp.key.type = true ∨
          Oversteps sheetLoader twoSheets request comp.descriptor := by
  have unbegun : (sheetLoader.run (twoSheets.take 2)).unbegun? 0 = some (["csv"], "csv") := by
    decide +kernel
  obtain ⟨comp, called, -, htype⟩ := calls_of_unbegun? unbegun (twoSheets.drop 3)
  have hl : sheetLoader.Fresh := fresh_build ..
  have defined : sheetLoader.resolver.registry = (Registry.InUse.run []).registry := rfl
  exact ⟨comp, called, htype, declared_run hl defined called⟩

/-- **A handler is called for an import of a type that it does not declare**: its module lists the type. -/
theorem undeclared_twoSheets :
    ∃ comp, Calls sheetLoader twoSheets comp ∧ comp.key.type = "tsv" ∧
      comp.descriptor.handler.supports comp.key.type = false := by
  have unbegun : (sheetLoader.run (twoSheets.take 5)).unbegun? 1 = some (["csv"], "tsv") := by
    decide +kernel
  obtain ⟨comp, called, htypes, htype⟩ := calls_of_unbegun? unbegun []
  refine ⟨comp, called, htype, ?_⟩
  rw [htype, Handler.supports, htypes]
  decide

end Loader

end TypedImport
