import TypedImport.Proofs.Handler.Agreement
import TypedImport.Proofs.Handler.Fallback

/-!
# The verification of modules

A path for which nothing is kept has its module made, and the import that names it gets a handler just if the
module is well-formed (`HandlerModule.WellFormed`): its default export takes two parameters, and the types that it
exports, if it does, are a list of texts. Whatever else comes, or does not, is the import's own error.

**Errors leave no trace.** Only a well-formed module is kept. So until one has come for a path
(`Resolving.NoneCame`), whatever else happens, the path is as it was at first, and an import that names it then has
the module made and verified (`Resolver.Verifies.later`).
-/

namespace TypedImport

/-! ## Sets of listed types -/

namespace TypeSet

/-- **A set holds what is listed**: each once, in increasing order. -/
structure Holds (set : TypeSet) (listed : List String) : Prop where
  increasing : set.Pairwise (· < ·)
  mem_iff : ∀ t, t ∈ set ↔ t ∈ listed

theorem pairwise_insert (t : String) {set : TypeSet} (increasing : set.Pairwise (· < ·)) :
    (insert t set).Pairwise (· < ·) := by
  induction set with
  | nil => exact List.pairwise_singleton ..
  | cons s rest ih =>
    obtain ⟨below, sorted⟩ := List.pairwise_cons.1 increasing
    unfold insert
    split
    next => exact increasing
    next ne =>
      split
      next lt =>
        refine List.pairwise_cons.2 ⟨fun a ha => ?_, increasing⟩
        rcases List.mem_cons.1 ha with rfl | ha
        · exact lt
        · exact String.lt_trans lt (below a ha)
      next notLt =>
        have gt : s < t := String.not_le.1 fun le => ne (String.le_antisymm le (String.not_lt.1 notLt))
        refine List.pairwise_cons.2 ⟨fun a ha => ?_, ih sorted⟩
        rcases mem_insert.1 ha with rfl | ha
        · exact gt
        · exact below a ha

theorem pairwise_foldl_insert (listed : List String) {set : TypeSet} (increasing : set.Pairwise (· < ·)) :
    (listed.foldl (fun set t => insert t set) set).Pairwise (· < ·) := by
  induction listed generalizing set with
  | nil => exact increasing
  | cons t rest ih => exact ih (pairwise_insert t increasing)

theorem holds_ofList (listed : List String) : (ofList listed).Holds listed where
  increasing := pairwise_foldl_insert listed List.Pairwise.nil
  mem_iff _ := mem_ofList

end TypeSet

/-! ## Well-formed modules -/

theorem Value.string?_eq_some_iff {v : Value} {s : String} : v.string? = some s ↔ v = .string s := by
  cases v <;> simp [Value.string?]

namespace HandlerModule

variable {m : HandlerModule} {handler : Handler} {types : TypeSet} {fault : ModuleFault}

/-- **A module lists types**: it exports them as an array of texts. -/
def Lists (m : HandlerModule) (names : List String) : Prop :=
  m.get? typesExport = some (.value (.array (names.map .string)))

/-- **A well-formed module** exports a handler of two parameters as its default; it lists its types, or exports
none. -/
structure WellFormed (m : HandlerModule) : Prop where
  callable : ∃ handler, m.get? defaultExport = some (.callable handler 2)
  listed : m.get? typesExport = none ∨ ∃ names, m.Lists names

/-- **The types that a module takes** with its handler: those that it lists, and the handler's own if it exports
none. -/
structure Takes (m : HandlerModule) (handler : Handler) (types : TypeSet) : Prop where
  own : m.get? typesExport = none → types = handler.types
  listed : ∀ names, m.Lists names → types.Holds names

/-- **What is wrong with what came for a path.** -/
inductive Wrong : Except Failure HandlerModule → ModuleFault → Prop
  | notInstantiated (failure : Failure) : Wrong (.error failure) (.notInstantiated failure)
  | noDefault {m : HandlerModule} (absent : m.get? defaultExport = none) : Wrong (.ok m) .noDefault
  | notCallable {m : HandlerModule} {v : Value} (exported : m.get? defaultExport = some (.value v)) :
    Wrong (.ok m) .notCallable
  | wrongArity {m : HandlerModule} {handler : Handler} {arity : Nat}
    (exported : m.get? defaultExport = some (.callable handler arity)) (other : arity ≠ 2) :
    Wrong (.ok m) (.wrongArity arity 2)
  | invalidTypes {m : HandlerModule} {handler : Handler} {e : ModuleExport}
    (callable : m.get? defaultExport = some (.callable handler 2)) (exported : m.get? typesExport = some e)
    (unlisted : ∀ names : List String, e ≠ .value (.array (names.map .string))) :
    Wrong (.ok m) .invalidTypes

/-- Nothing is wrong with a well-formed module. -/
theorem WellFormed.not_wrong (good : m.WellFormed) : ¬ Wrong (.ok m) fault := by
  obtain ⟨handler, callable⟩ := good.callable
  rintro (_ | absent | exported | ⟨exported, other⟩ | ⟨-, exported, unlisted⟩)
  · rw [callable] at absent
    cases absent
  · rw [callable] at exported
    cases exported
  · rw [callable] at exported
    cases exported
    exact other rfl
  · rcases good.listed with absent | ⟨names, listed⟩
    · rw [absent] at exported
      cases exported
    · exact unlisted names (Option.some.inj (exported.symm.trans listed))

theorem callable_of_handler (h : m.handler = .ok handler) :
    m.get? defaultExport = some (.callable handler 2) := by
  unfold HandlerModule.handler at h
  split at h
  next found arity exported =>
    split at h
    next two =>
      cases h
      rw [exported, two]
      rfl
    next => cases h
  next => cases h
  next => cases h

theorem wrong_of_handler (h : m.handler = .error fault) : Wrong (.ok m) fault := by
  unfold HandlerModule.handler at h
  split at h
  next found arity exported =>
    split at h
    next => cases h
    next other =>
      cases h
      exact .wrongArity exported other
  next v exported =>
    cases h
    exact .notCallable exported
  next absent =>
    cases h
    exact .noDefault absent

theorem strings?_eq_some_iff {items : List Value} {names : List String} :
    strings? items = some names ↔ items = names.map .string := by
  induction items generalizing names with
  | nil => cases names <;> simp [strings?]
  | cons v rest ih =>
    have step : strings? (v :: rest) = some names ↔
        ∃ s, v.string? = some s ∧ ∃ others, strings? rest = some others ∧ s :: others = names := by
      simp [strings?, Option.bind_eq_some_iff]
    rw [step]
    constructor
    · rintro ⟨s, hs, others, hothers, rfl⟩
      rw [Value.string?_eq_some_iff.1 hs, ih.1 hothers]
      rfl
    · intro h
      obtain ⟨s, others, rfl, rfl, rfl⟩ := List.map_eq_cons_iff.1 h.symm
      exact ⟨s, rfl, others, ih.2 rfl, rfl⟩

/-- **The types that are read** are those that the module takes, and it exports them as it should. -/
theorem takes_of_types (h : m.types handler = .ok types) :
    m.Takes handler types ∧ (m.get? typesExport = none ∨ ∃ names, m.Lists names) := by
  unfold HandlerModule.types at h
  split at h
  next absent =>
    cases h
    refine ⟨⟨fun _ => rfl, fun names listed => ?_⟩, .inl absent⟩
    cases absent.symm.trans listed
  next items exported =>
    split at h
    next names texts =>
      cases h
      have listed : m.Lists names := by
        rw [Lists, exported, strings?_eq_some_iff.1 texts]
      refine ⟨⟨fun absent => ?_, fun names' listed' => ?_⟩, .inr ⟨names, listed⟩⟩
      · cases absent.symm.trans listed
      · -- a list of texts is read in one way only
        cases exported.symm.trans listed'
        cases texts.symm.trans (strings?_eq_some_iff.2 rfl)
        exact TypeSet.holds_ofList names
    next => cases h
  next => cases h

theorem wrong_of_types (callable : m.get? defaultExport = some (.callable handler 2))
    (h : m.types handler = .error fault) : Wrong (.ok m) fault := by
  unfold HandlerModule.types at h
  split at h
  next => cases h
  next items exported =>
    split at h
    next => cases h
    next unlisted =>
      cases h
      refine .invalidTypes callable exported fun names same => ?_
      cases same
      rw [strings?_eq_some_iff.2 rfl] at unlisted
      cases unlisted
  next e other exported =>
    cases h
    exact .invalidTypes callable exported fun names same => other _ same

/-- **A module is verified or something is wrong with it.** -/
theorem verify_cases (m : HandlerModule) :
    (∃ handler types, m.verify = .ok (handler, types) ∧ m.WellFormed ∧
      m.get? defaultExport = some (.callable handler 2) ∧ m.Takes handler types) ∨
    ∃ fault, m.verify = .error fault ∧ Wrong (.ok m) fault := by
  unfold verify
  cases hhandler : m.handler with
  | error fault => exact .inr ⟨fault, rfl, wrong_of_handler hhandler⟩
  | ok handler =>
    have callable := callable_of_handler hhandler
    dsimp only
    cases htypes : m.types handler with
    | error fault => exact .inr ⟨fault, rfl, wrong_of_types callable htypes⟩
    | ok types =>
      obtain ⟨takes, listed⟩ := takes_of_types htypes
      exact .inl ⟨handler, types, rfl, ⟨⟨handler, callable⟩, listed⟩, callable, takes⟩

theorem wellFormed_iff : m.WellFormed ↔ ∃ verified, m.verify = .ok verified := by
  rcases m.verify_cases with ⟨handler, types, h, good, -, -⟩ | ⟨fault, h, wrong⟩
  · exact iff_of_true good ⟨_, h⟩
  · refine iff_of_false (fun good => good.not_wrong wrong) fun ⟨verified, ok⟩ => ?_
    cases h.symm.trans ok

/-- **What the descriptor of a module says**: the identity is derived from the path. -/
structure Describes (m : HandlerModule) (path : String) (d : Descriptor) : Prop where
  id : d.id = HandlerId.derive .externalModule path
  origin : d.origin = .externalModule
  modulePath : d.modulePath = some path
  handler : m.get? defaultExport = some (.callable d.handler 2)
  types : m.Takes d.handler d.types

end HandlerModule

open HandlerModule

/-! ## What an import is told -/

/-- **What an import is told of what came for the path that it names.** -/
structure Verdict (path url type : String) (came : Except Failure HandlerModule)
    (answer : Except ImportError Descriptor) : Prop where
  /-- It is given a handler just if a well-formed module came. -/
  succeeds : (∃ d, answer = .ok d) ↔ ∃ m, came = .ok m ∧ m.WellFormed
  /-- An error is its own, names the handler of the path and says what is wrong. -/
  tells : ∀ e, answer = .error e → ∃ fault, Wrong came fault ∧
    e = .handlerResolution url type (some (HandlerId.derive .externalModule path)) (.badModule path fault)

theorem Verdict.of_wellFormed {m : HandlerModule} (good : m.WellFormed) (path url type : String)
    (d : Descriptor) : Verdict path url type (.ok m) (.ok d) where
  succeeds := iff_of_true ⟨d, rfl⟩ ⟨m, rfl, good⟩
  tells _ h := nomatch h

theorem Verdict.of_wrong {came : Except Failure HandlerModule} {fault : ModuleFault} (wrong : Wrong came fault)
    (path url type : String) : Verdict path url type came (.error
      (.handlerResolution url type (some (HandlerId.derive .externalModule path)) (.badModule path fault))) where
  succeeds := by
    refine iff_of_false (fun ⟨d, h⟩ => nomatch h) ?_
    rintro ⟨m, rfl, good⟩
    exact good.not_wrong wrong
  tells e h := by
    cases h
    exact ⟨fault, wrong, rfl⟩

namespace Resolver

variable {r : Resolver} {path url type : String} {m : HandlerModule} {d : Descriptor}

/-- **What comes is verified**, whether something is kept for the path or not. -/
theorem verdict_settleModule (r : Resolver) (path url type : String) (came : Except Failure HandlerModule) :
    Verdict path url type came (r.settleModule path url type came).1 := by
  unfold settleModule ModuleMemo.settle
  cases came with
  | error failure => exact .of_wrong (.notInstantiated failure) path url type
  | ok m =>
    rcases m.verify_cases with ⟨handler, types, h, good, -, -⟩ | ⟨fault, h, wrong⟩
    · simp only [h]
      exact .of_wellFormed good path url type _
    · simp only [h]
      exact .of_wrong wrong path url type

/-- Where nothing is kept for the path, a module is described by what it exports. -/
theorem describes_of_settles (missing : r.memo.find? path = none)
    (h : (r.settleModule path url type (.ok m)).1 = .ok d) :
    m.Describes path d ∧ (r.settleModule path url type (.ok m)).2.memo = Table.put r.memo path d := by
  rcases m.verify_cases with ⟨handler, types, hv, -, callable, takes⟩ | ⟨fault, hv, -⟩
  · have kept : r.memo.keep path handler types = (.external r.memo.length path handler types,
        Table.put r.memo path (.external r.memo.length path handler types)) := by
      unfold ModuleMemo.keep
      rw [missing]
    simp only [settleModule, ModuleMemo.settle, hv, kept] at h ⊢
    cases h
    exact ⟨⟨rfl, rfl, rfl, callable, takes⟩, rfl⟩
  · simp only [settleModule, ModuleMemo.settle, hv] at h
    cases h

theorem settles_of_wellFormed (missing : r.memo.find? path = none) (good : m.WellFormed) (url type : String) :
    ∃ d, m.Describes path d ∧ (r.settleModule path url type (.ok m)).1 = .ok d := by
  obtain ⟨d, h⟩ := (verdict_settleModule r path url type (.ok m)).succeeds.2 ⟨m, rfl, good⟩
  exact ⟨d, (describes_of_settles missing h).1, h⟩

theorem memo_of_fails {came : Except Failure HandlerModule} {e : ImportError}
    (h : (r.settleModule path url type came).1 = .error e) : (r.settleModule path url type came).2 = r := by
  rcases r.settleModule_cases path url type came with ⟨error, settled⟩ | ⟨m, handler, types, -, -, settled⟩
  · rw [settled]
  · rw [settled] at h
    cases h

theorem resolveModule_of_missing (missing : r.memo.find? path = none) (url type : String) :
    r.resolveModule path url type = { r with modules := (r.modules.instantiate path).2 }.settleModule path url type
      (r.modules.instantiate path).1 := by
  unfold resolveModule
  rw [missing]

end Resolver

namespace Resolving

variable {r : Resolver} {events : List Event} {path : String}

/-- **A well-formed module comes for a path.** -/
def Brings (path : String) (s : Resolving) (e : Event) : Prop :=
  ∃ i a m, e = .settle i (.ok m) ∧ s.attempts[i]? = some a ∧ a.stage = .making ∧
    a.reference = .module path ∧ m.WellFormed

/-- That no well-formed module has come for a path. -/
def NoneCame (r : Resolver) (path : String) (events : List Event) : Prop :=
  ¬ Happened (fun before e => Brings path (r.serving before) e) events

theorem NoneCame.concat (h : NoneCame r path events) {e : Event} (other : ∀ i came, e ≠ .settle i came) :
    NoneCame r path (events ++ [e]) := by
  intro came
  rcases happened_concat.1 came with before | ⟨i, a, m, he, -⟩
  · exact h before
  · exact other i (.ok m) he

/-- **Only a well-formed module is kept**: until one comes there is nothing for the path. -/
theorem missing_serving (missing : r.memo.find? path = none)
    (none_came : NoneCame r path events) :
    (r.serving events).resolver.memo.find? path = none := by
  cases kept : (r.serving events).resolver.memo.find? path with
  | none => rfl
  | some d =>
    exfalso
    rcases inserted_of_kept kept with first | ⟨before, e, later, heq, inserts⟩
    · cases missing.symm.trans first
    · obtain ⟨i, a, m, handler, types, he, hi, making, names, verified, -, -⟩ := inserts
      have good := HandlerModule.wellFormed_iff.2 ⟨_, verified⟩
      exact none_came ⟨before, e, later, heq, i, a, m, he, hi, making, names, good⟩

/-- An attempt left to itself asks for the module of its path in its second turn. -/
theorem making_of_enter (missing : (r.serving events).resolver.memo.find? path = none) (url type media : String) :
    let n := (r.serving events).attempts.length
    (r.serving (events ++ [.enter (.module path) url type media] ++ [.turn n] ++ [.turn n])).attempts[n]? =
      some { reference := .module path, url, type, media, stage := .making } := by
  intro n
  let begun : Attempt := { reference := .module path, url, type, media }
  let entered := (r.serving events).after (.enter (.module path) url type media)
  have first : entered.attempts[n]? = some begun := List.getElem?_concat_length
  have second : (entered.put n begun .missed).attempts[n]? = some { begun with stage := .missed } :=
    getElem?_put_self first .missed
  rw [serving_concat, serving_concat, serving_concat, after_turn_of_missing first rfl rfl missing,
    after_turn_of_missed second rfl rfl]
  exact getElem?_put_self second .making

/-- What comes for an attempt is settled by the resolver. -/
theorem found_of_making {i : Nat} {a : Attempt} (hi : (r.serving events).attempts[i]? = some a)
    (making : a.stage = .making) (names : a.reference = .module path) (came : Except Failure HandlerModule) :
    (r.serving (events ++ [.settle i came])).attempts[i]? = some { a with
      stage := .found ((r.serving events).resolver.settleModule path a.url a.type came).1 } := by
  rw [serving_concat, after_settle_of_making hi making names]
  exact getElem?_put_self (s := { r.serving events with resolver := _ }) hi _

end Resolving

namespace Resolver

variable {r : Resolver} {path : String}

/-- **A resolver verifies the module of a path.** -/
structure Verifies (r : Resolver) (path : String) : Prop where
  /-- An import that names the path is given a handler just if the module is well-formed, -/
  verdict : ∀ url type, Verdict path url type (r.modules.instantiate path).1 (r.resolveModule path url type).1
  /-- and it is the one that the module exports, with its types; it is kept for the path. -/
  describes : ∀ url type d, (r.resolveModule path url type).1 = .ok d →
    (∃ m, (r.modules.instantiate path).1 = .ok m ∧ m.Describes path d) ∧
      (r.resolveModule path url type).2.memo = Table.put r.memo path d
  /-- An error leaves what is kept as it was. -/
  unchanged : ∀ url type e, (r.resolveModule path url type).1 = .error e →
    (r.resolveModule path url type).2.memo = r.memo
  /-- So another import succeeds once the module has been repaired. -/
  repaired : ∀ url type e modules url' type' m, (r.resolveModule path url type).1 = .error e →
    (ModuleTable.instantiate modules path).1 = .ok m → m.WellFormed →
    ∃ d, m.Describes path d ∧
      ({ (r.resolveModule path url type).2 with modules := modules }.resolveModule path url' type').1 = .ok d
  /-- An attempt for which something has come is told the verdict on it, whatever other attempts do, -/
  settles : ∀ events (i : Nat) (a : Resolving.Attempt) came, (r.serving events).attempts[i]? = some a →
    a.stage = .making → a.reference = .module path → ∃ answer, Verdict path a.url a.type came answer ∧
      (r.serving (events ++ [.settle i came])).attempts[i]? = some { a with stage := .found answer }
  /-- and the first well-formed module is the one that is described. -/
  first : ∀ events (i : Nat) (a : Resolving.Attempt) m d, (r.serving events).attempts[i]? = some a →
    a.stage = .making → a.reference = .module path → Resolving.NoneCame r path events →
    (r.serving (events ++ [.settle i (.ok m)])).attempts[i]? = some { a with stage := .found (.ok d) } →
    m.Describes path d
  /-- After any history without one nothing is kept for the path, -/
  missing : ∀ events, Resolving.NoneCame r path events → (r.serving events).resolver.memo.find? path = none
  /-- and an import that comes then has the module made, and gets its handler if it is well-formed. -/
  later : ∀ events url type media m, Resolving.NoneCame r path events → m.WellFormed →
    let n := (r.serving events).attempts.length
    ∃ d, m.Describes path d ∧ (r.serving (events ++ [.enter (.module path) url type media] ++ [.turn n] ++
        [.turn n] ++ [.settle n (.ok m)])).attempts[n]? =
      some { reference := .module path, url, type, media, stage := .found (.ok d) }

/-- **A path for which nothing is kept has its module verified**, each time one comes, until a well-formed
module has come. -/
theorem verifies_of_missing (missing : r.memo.find? path = none) : r.Verifies path where
  verdict url type := by
    rw [resolveModule_of_missing missing]
    exact verdict_settleModule ..
  describes url type d h := by
    have asked := resolveModule_of_missing missing url type
    rw [asked] at h ⊢
    cases came : (r.modules.instantiate path).1 with
    | error failure =>
      rw [came] at h
      cases h
    | ok m =>
      rw [came] at h
      obtain ⟨describes, kept⟩ := describes_of_settles missing h
      exact ⟨⟨m, rfl, describes⟩, kept⟩
  unchanged url type e h := by
    rw [resolveModule_of_missing missing] at h ⊢
    rw [memo_of_fails h]
  repaired url type e modules url' type' m h came good := by
    have again :
        ({ (r.resolveModule path url type).2 with modules := modules } : Resolver).memo.find? path = none := by
      show (r.resolveModule path url type).2.memo.find? path = none
      rw [resolveModule_of_missing missing] at h ⊢
      rw [memo_of_fails h]
      exact missing
    rw [resolveModule_of_missing again, came]
    exact settles_of_wellFormed again good url' type'
  settles events i a came hi making names :=
    ⟨_, verdict_settleModule .., Resolving.found_of_making hi making names came⟩
  first events i a m d hi making names none_came found := by
    rw [Resolving.found_of_making hi making names] at found
    have answer := Resolving.Stage.found.inj (congrArg Resolving.Attempt.stage (Option.some.inj found))
    exact (describes_of_settles (Resolving.missing_serving missing none_came) answer).1
  missing events none_came := Resolving.missing_serving missing none_came
  later events url type media m none_came good := by
    intro n
    have before := Resolving.missing_serving missing none_came
    have making := Resolving.making_of_enter before url type media
    have still := ((none_came.concat (e := .enter (.module path) url type media) nofun).concat
      (e := .turn n) nofun).concat (e := .turn n) nofun
    obtain ⟨d, describes, answer⟩ :=
      settles_of_wellFormed (Resolving.missing_serving missing still) good url type
    refine ⟨d, describes, ?_⟩
    rw [Resolving.found_of_making making rfl rfl, answer]

/-! ## A module that is repaired -/

/-- A handler for texts that takes one parameter too few. -/
def unready : HandlerModule :=
  ({} : HandlerModule).withExport defaultExport (.callable (Builtin.text.handler ⟨1⟩) 1)

/-- The handler as it should be, with its types in any order. -/
def ready : HandlerModule :=
  (HandlerModule.ofHandler (Builtin.text.handler ⟨1⟩)).withExport HandlerModule.typesExport
    (.value (.array [.string "txt", .string "md", .string "txt"]))

/-- A resolver for which a path has this module. -/
def supplied (m : HandlerModule) : Resolver where
  policy := .registryOnly
  native := { host := usualHost }
  modules := ModuleTable.register {} "./text.js" (.ok m)

/-- The unready module is refused as `verifies_of_missing` says; the ready one is taken after it, with the types
that it lists. -/
theorem verifies_supplied :
    (supplied unready).memo.find? "./text.js" = none ∧
      (∃ d, ({ ((supplied unready).resolveModule "./text.js" "file:///a" "md").2 with
          modules := (supplied ready).modules }.resolveModule "./text.js" "file:///a" "md").1 = .ok d ∧
        ready.Describes "./text.js" d ∧ d.types.Holds ["txt", "md", "txt"]) := by
  have verifies : (supplied unready).Verifies "./text.js" := verifies_of_missing rfl
  have good : ready.WellFormed := ⟨⟨_, rfl⟩, .inr ⟨["txt", "md", "txt"], rfl⟩⟩
  obtain ⟨d, describes, given⟩ :=
    verifies.repaired "file:///a" "md" _ (supplied ready).modules "file:///a" "md" ready rfl rfl good
  exact ⟨rfl, d, given, describes, describes.types.listed _ rfl⟩

end Resolver

end TypedImport
