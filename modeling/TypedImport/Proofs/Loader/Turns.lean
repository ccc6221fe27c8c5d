import TypedImport.Loader.Basic
import TypedImport.Proofs.Handler.Work

/-!
# What happens to a loader

Whatever happens to a loader touches its cache, its computations and its imports in one of a few ways.
`Turn` lists them, and `turn_after` says that the list is complete; what a run of a loader keeps is
proved from `Turn`.

**Imports.** An import is early until it asks the cache, which it does once; afterwards it waits for a
computation or is over. `approach` is all that comes before the question, and it leaves the cache and the
computations alone (`Approached`).

**Computations.** A computation ends with a record of an outcome that its handler can have, or with an
error of its key. There is no third way (`Computation.Ends`).
-/

namespace TypedImport

/-- An import that has not yet asked the cache. -/
def Import.Stage.Early : Import.Stage → Prop
  | .begun _ | .fetching .. => True
  | _ => False

/-- Where an import is after a turn in which it did not ask the cache. -/
def Import.Stage.Unserved : Import.Stage → Prop
  | .fetching .. | .dropped | .done (.error _) => True
  | _ => False

namespace Computation

/-- The call of its handler, after `nth` others. -/
def call (comp : Computation) (nth : Nat) : Call :=
  comp.descriptor.handler.call nth comp.asset.bytes (comp.asset.context comp.key.type)

/-- **An outcome that a computation may still come to.** -/
def Leads (comp : Computation) (o : Outcome) : Prop :=
  match comp.stage with
  | .begun => ∃ nth, (comp.call nth).outcome = o
  | .working work => work.outcome = o
  | .ended => False

/-- **What a computation ends with.** -/
inductive Ends (comp : Computation) : Except ImportError Record → Prop where
  /-- A record of the exports that its handler gave. -/
  | record {v : Value} {fields : Fields} (leads : comp.Leads (.value v))
      (shape : v.exports? = .ok fields) :
      Ends comp (.ok ⟨fields, comp.descriptor.origin, comp.key, comp.asset.fingerprint⟩)
  /-- An error of its key and handler. -/
  | fault (fault : ExecutionFault) : Ends comp (.error (Invoke.error comp.descriptor comp.key fault))

theorem Ends.ofCall {comp : Computation} {timeout : UInt64} {e : CallEnd}
    (h : ∀ o, e = .outcome o → comp.Leads o) :
    comp.Ends (Invoke.record timeout comp.descriptor comp.asset comp.key e) := by
  rcases Invoke.record_cases timeout comp.descriptor comp.asset comp.key e with
    ⟨v, fields, he, hv, hr⟩ | ⟨fault, hr⟩
  · rw [hr]
    exact .record (h _ he) hv
  · rw [hr]
    exact .fault fault

end Computation

/-- The ending of a computation in the cache. -/
def Ending.ofResult : Except ImportError Record → Ending
  | .ok r => .record r
  | .error e => .failed e

namespace Loader

variable {l l' : Loader} {i c : Nat}

/-! ## What a turn leaves alone -/

@[simp] theorem setImport_flights (states : List ImportState) (stage : Import.Stage) :
    (l.setImport i states stage).flights = l.flights := rfl

@[simp] theorem setImport_computations (states : List ImportState) (stage : Import.Stage) :
    (l.setImport i states stage).computations = l.computations := rfl

@[simp] theorem setImport_imports (states : List ImportState) (stage : Import.Stage) :
    (l.setImport i states stage).imports = l.imports.set i ⟨states, stage⟩ := rfl

@[simp] theorem fail_flights (states : List ImportState) (e : ImportError) :
    (l.fail i states e).flights = l.flights := rfl

@[simp] theorem fail_computations (states : List ImportState) (e : ImportError) :
    (l.fail i states e).computations = l.computations := rfl

@[simp] theorem fail_imports (states : List ImportState) (e : ImportError) :
    (l.fail i states e).imports = l.imports.set i ⟨states ++ [.failed], .done (.error e)⟩ := rfl

@[simp] theorem finishImport_flights (states : List ImportState)
    (result : Except ImportError Served) : (l.finishImport i states result).flights = l.flights := by
  cases result <;> rfl

@[simp] theorem finishImport_computations (states : List ImportState)
    (result : Except ImportError Served) :
    (l.finishImport i states result).computations = l.computations := by
  cases result <;> rfl

theorem finishImport_imports (states : List ImportState) (result : Except ImportError Served) :
    ∃ states', (l.finishImport i states result).imports =
      l.imports.set i ⟨states', .done result⟩ := by
  cases result with
  | ok served => exact ⟨_, rfl⟩
  | error e => exact ⟨_, rfl⟩

theorem serve_resolver (l : Loader) (i : Nat) (d : Demand) : (l.serve i d).resolver = l.resolver := by
  unfold serve
  split
  next result _ _ => cases result <;> rfl
  next => rfl

/-- Once it has asked, an import is early no more. -/
theorem serve_imports (l : Loader) (i : Nat) (d : Demand) :
    ∃ states stage, (l.serve i d).imports = l.imports.set i ⟨states, stage⟩ ∧ ¬ stage.Early := by
  unfold serve
  split
  next result flights _ =>
    cases result with
    | ok served => exact ⟨_, _, rfl, fun hearly => hearly⟩
    | error e => exact ⟨_, _, rfl, fun hearly => hearly⟩
  next => exact ⟨_, _, rfl, fun hearly => hearly⟩

theorem pollComputation_resolver (l : Loader) (c : Nat) :
    (l.pollComputation c).resolver = l.resolver ∧ (l.pollComputation c).imports = l.imports := by
  have goes : ∀ (l : Loader) comp step, (l.continueWork c comp step).resolver = l.resolver ∧
      (l.continueWork c comp step).imports = l.imports := by
    intro l comp step
    cases step <;> exact ⟨rfl, rfl⟩
  unfold pollComputation
  split
  · split
    · unfold callHandler
      dsimp only
      split
      · exact ⟨rfl, rfl⟩
      · exact goes ..
    · exact goes ..
    · exact ⟨rfl, rfl⟩
  · exact ⟨rfl, rfl⟩

/-- **A turn of import `i` up to the question to the cache.** Either it asks and has changed nothing
that counts here, or the import is all that has changed. -/
structure Approached (l : Loader) (i : Nat) (turn : Loader × Option Demand) : Prop where
  flights : turn.1.flights = l.flights
  computations : turn.1.computations = l.computations
  asked : ∀ d, turn.2 = some d → turn.1.imports = l.imports
  silent : turn.2 = none →
    ∃ states stage, stage.Unserved ∧ turn.1.imports = l.imports.set i ⟨states, stage⟩

theorem Approached.of {turn : Loader × Option Demand} (h : Approached l' i turn)
    (hf : l'.flights = l.flights) (hc : l'.computations = l.computations)
    (hi : l'.imports = l.imports) : Approached l i turn where
  flights := h.flights.trans hf
  computations := h.computations.trans hc
  asked d hd := (h.asked d hd).trans hi
  silent hn := by
    obtain ⟨states, stage, hs, him⟩ := h.silent hn
    exact ⟨states, stage, hs, by rw [him, hi]⟩

theorem Approached.fail (l : Loader) (i : Nat) (states : List ImportState) (e : ImportError) :
    Approached l i (l.fail i states e, none) where
  flights := rfl
  computations := rfl
  asked d hd := by cases hd
  silent _ := ⟨states ++ [.failed], .done (.error e), trivial, rfl⟩

theorem Approached.wait (l : Loader) (i : Nat) (states : List ImportState) (request : ImportRequest)
    (early : Option Descriptor) (attempt : UInt32) (till : Option Nat) :
    Approached l i (l.setImport i states (.fetching request early attempt till), none) where
  flights := rfl
  computations := rfl
  asked d hd := by cases hd
  silent _ := ⟨states, .fetching request early attempt till, trivial, rfl⟩

theorem approached_receive (states : List ImportState) (request : ImportRequest)
    (early : Option Descriptor) (fetched : Fetched) :
    Approached l i (l.receive i states request early fetched) := by
  unfold receive
  cases early with
  | some d => exact ⟨rfl, rfl, fun _ _ => rfl, fun h => by cases h⟩
  | none =>
    dsimp only
    split
    · exact ⟨rfl, rfl, fun _ _ => rfl, fun h => by cases h⟩
    · exact (Approached.fail ..).of rfl rfl rfl

theorem approached_fetchAsset (states : List ImportState) (request : ImportRequest)
    (early : Option Descriptor) (attempt : UInt32) :
    Approached l i (l.fetchAsset i states request early attempt) := by
  unfold fetchAsset
  split
  · exact .wait ..
  · dsimp only
    split
    · exact (approached_receive ..).of rfl rfl rfl
    · split
      · exact (Approached.wait ..).of rfl rfl rfl
      · exact (Approached.fail ..).of rfl rfl rfl

theorem approached_resolveHandler (states : List ImportState) (request : ImportRequest) :
    Approached l i (l.resolveHandler i states request) := by
  unfold resolveHandler
  dsimp only
  split
  · exact (approached_fetchAsset ..).of rfl rfl rfl
  · split
    · exact (approached_fetchAsset ..).of rfl rfl rfl
    · exact (Approached.fail ..).of rfl rfl rfl

/-- An import asks only while it is early, and until then a turn leaves the cache alone. -/
theorem approached_or_eq (l : Loader) (i : Nat) :
    l.approach i = (l, none) ∨
      ∃ old, l.imports[i]? = some old ∧ old.stage.Early ∧ Approached l i (l.approach i) := by
  unfold approach
  split
  next states request hi => exact .inr ⟨_, hi, trivial, approached_resolveHandler ..⟩
  next states request early attempt till hi =>
    split
    · exact .inr ⟨_, hi, trivial, approached_fetchAsset ..⟩
    · exact .inl rfl
  next => exact .inl rfl

/-! ## Turns -/

/-- In an event no import asks the cache. -/
def Quiet (l : Loader) (e : Event) : Prop :=
  ∀ i, e = .pollImport i → (l.approach i).2 = none

/-- **What an event does** to the cache, the computations and the imports of a loader. -/
inductive Turn (l : Loader) : Event → Loader → Prop where
  /-- Nothing. -/
  | idle {e : Event} {l' : Loader} (quiet : l.Quiet e) (flights : l'.flights = l.flights)
      (computations : l'.computations = l.computations) (imports : l'.imports = l.imports) :
      Turn l e l'
  /-- An import comes in, or is refused. -/
  | came {e : Event} {l' : Loader} {new : Import} (quiet : l.Quiet e) (flights : l'.flights = l.flights)
      (computations : l'.computations = l.computations)
      (imports : l'.imports = l.imports ++ [new])
      (stage : (∃ request, new.stage = .begun request) ∨ ∃ error, new.stage = .done (.error error)) :
      Turn l e l'
  /-- An import goes on or ends without having asked the cache. -/
  | moved {e : Event} {l' : Loader} {i : Nat} {old : Import} {states : List ImportState}
      {stage : Import.Stage} (quiet : l.Quiet e) (before : l.imports[i]? = some old)
      (early : old.stage.Early) (unserved : stage.Unserved) (flights : l'.flights = l.flights)
      (computations : l'.computations = l.computations)
      (imports : l'.imports = l.imports.set i ⟨states, stage⟩) : Turn l e l'
  /-- An import asks the cache and is answered at once. -/
  | answered {i : Nat} {l' : Loader} {old : Import} {d : Demand} {states : List ImportState}
      {result : Except ImportError Served} (before : l.imports[i]? = some old)
      (early : old.stage.Early) (demand : (l.approach i).2 = some d)
      (reply : (l.flights.request d.key d.asset.fingerprint).1 = .now result)
      (flights : l'.flights = (l.flights.request d.key d.asset.fingerprint).2)
      (computations : l'.computations = l.computations)
      (imports : l'.imports = l.imports.set i ⟨states, .done result⟩) : Turn l (.pollImport i) l'
  /-- An import asks the cache and has to wait. -/
  | attached {i : Nat} {l' : Loader} {old : Import} {d : Demand} {states : List ImportState}
      {ticket : Nat} {status : CacheStatus} (before : l.imports[i]? = some old)
      (early : old.stage.Early) (demand : (l.approach i).2 = some d)
      (reply : (l.flights.request d.key d.asset.fingerprint).1 = .later ticket status)
      (flights : l'.flights = (l.flights.request d.key d.asset.fingerprint).2)
      (computations : l'.computations =
        if status = .computed then l.computations ++ [d.computation] else l.computations)
      (imports : l'.imports = l.imports.set i ⟨states, .computing ticket⟩) :
      Turn l (.pollImport i) l'
  /-- An import that waits is answered. -/
  | resumed {i : Nat} {l' : Loader} {old states : List ImportState} {ticket : Nat}
      {result : Except ImportError Served} (before : l.imports[i]? = some ⟨old, .computing ticket⟩)
      (reply : (l.flights.resume ticket).1 = some result)
      (flights : l'.flights = (l.flights.resume ticket).2)
      (computations : l'.computations = l.computations)
      (imports : l'.imports = l.imports.set i ⟨states, .done result⟩) : Turn l (.pollImport i) l'
  /-- An import that waits is dropped. -/
  | dropped {i : Nat} {l' : Loader} {states : List ImportState} {ticket : Nat}
      (before : l.imports[i]? = some ⟨states, .computing ticket⟩)
      (flights : l'.flights = l.flights.drop ticket)
      (computations : l'.computations = l.computations)
      (imports : l'.imports = l.imports.set i ⟨states, .dropped⟩) : Turn l (.dropImport i) l'
  /-- A computation goes on. -/
  | worked {e : Event} {l' : Loader} {c : Nat} {comp : Computation} {work : Work} (quiet : l.Quiet e)
      (before : l.computations[c]? = some comp) (leads : comp.Leads work.outcome)
      (flights : l'.flights = l.flights)
      (computations : l'.computations =
        l.computations.modify c fun comp => { comp with stage := .working work })
      (imports : l'.imports = l.imports) : Turn l e l'
  /-- A computation ends. -/
  | ended {l' : Loader} {c : Nat} {comp : Computation} {result : Except ImportError Record}
      (before : l.computations[c]? = some comp) (under : comp.stage ≠ .ended)
      (ends : comp.Ends result) (flights : l'.flights = l.flights.finish c (.ofResult result))
      (computations : l'.computations =
        l.computations.modify c fun comp => { comp with stage := .ended })
      (imports : l'.imports = l.imports) : Turn l (.pollComputation c) l'
  | cleared : Turn l .clear { l with flights := l.flights.clear }
  | invalidated {url : String} :
      Turn l (.invalidate url) { l with flights := l.flights.invalidate url }

variable {e : Event}

theorem turn_submit (quiet : l.Quiet e) (request : ImportRequest) : Turn l e (l.submit request) :=
  .came quiet rfl rfl rfl (.inl ⟨request, rfl⟩)

theorem turn_refuse (quiet : l.Quiet e) (error : ImportError) : Turn l e (l.refuse error) :=
  .came quiet rfl rfl rfl (.inr ⟨error, rfl⟩)

theorem turn_startImport (quiet : l.Quiet e) (specifier : String) (referrer : Option Url)
    (a : Assertion) (bindings : Bindings) :
    Turn l e (l.startImport specifier referrer a bindings) := by
  unfold startImport
  dsimp only
  split
  · exact turn_refuse quiet _
  · split
    · exact turn_refuse quiet _
    · split
      · exact turn_refuse quiet _
      · exact turn_submit quiet _

theorem approach_of_computing {states : List ImportState} {ticket : Nat}
    (hi : l.imports[i]? = some ⟨states, .computing ticket⟩) : l.approach i = (l, none) := by
  unfold approach
  rw [hi]

theorem turn_answered {l₀ : Loader} {old : Import} {d : Demand} {states : List ImportState}
    {result : Except ImportError Served} (before : l.imports[i]? = some old)
    (early : old.stage.Early) (demand : (l.approach i).2 = some d)
    (reply : (l.flights.request d.key d.asset.fingerprint).1 = .now result)
    (hf : l₀.flights = (l.flights.request d.key d.asset.fingerprint).2)
    (hc : l₀.computations = l.computations) (hi : l₀.imports = l.imports) :
    Turn l (.pollImport i) (l₀.finishImport i states result) := by
  obtain ⟨states', him⟩ := finishImport_imports (l := l₀) (i := i) states result
  refine .answered before early demand reply ?_ ?_ (him.trans (by rw [hi]))
  · rw [finishImport_flights, hf]
  · rw [finishImport_computations, hc]

theorem turn_serve {l₀ : Loader} {old : Import} {d : Demand} (before : l.imports[i]? = some old)
    (early : old.stage.Early) (demand : (l.approach i).2 = some d)
    (hf : l₀.flights = l.flights) (hc : l₀.computations = l.computations)
    (hi : l₀.imports = l.imports) : Turn l (.pollImport i) (l₀.serve i d) := by
  unfold serve
  rw [hf, hc]
  dsimp only
  cases hr : l.flights.request d.key d.asset.fingerprint with
  | mk reply flights =>
    have hreply : (l.flights.request d.key d.asset.fingerprint).1 = reply := by rw [hr]
    have hflights : flights = (l.flights.request d.key d.asset.fingerprint).2 := by rw [hr]
    cases reply with
    | now result => exact turn_answered before early demand hreply hflights rfl hi
    | later ticket status =>
      exact .attached before early demand hreply hflights rfl (congrArg (List.set · i _) hi)

theorem turn_pollImport (l : Loader) (i : Nat) : Turn l (.pollImport i) (l.pollImport i) := by
  unfold pollImport
  split
  next old ticket hi =>
    cases hr : l.flights.resume ticket with
    | mk reply flights =>
      cases reply with
      | none =>
        refine .idle (fun j hj => ?_) rfl rfl rfl
        cases hj
        rw [approach_of_computing hi]
      | some result =>
        obtain ⟨states', him⟩ := finishImport_imports (l := { l with flights := flights }) (i := i)
          old result
        exact .resumed hi (by rw [hr]) (by simp [hr]) (by simp) him
  next =>
    rcases approached_or_eq l i with heq | ⟨old, hi, hearly, ha⟩
    · rw [heq]
      refine .idle (fun j hj => ?_) rfl rfl rfl
      cases hj
      rw [heq]
    · cases hr : l.approach i with
      | mk l₀ asked =>
        rw [hr] at ha
        cases asked with
        | none =>
          obtain ⟨states, stage, hs, him⟩ := ha.silent rfl
          refine .moved (fun j hj => ?_) hi hearly hs ha.flights ha.computations him
          cases hj
          rw [hr]
        | some d =>
          exact turn_serve hi hearly (by rw [hr]) ha.flights ha.computations (ha.asked d rfl)

theorem turn_dropImport (l : Loader) (i : Nat) : Turn l (.dropImport i) (l.dropImport i) := by
  have quiet : l.Quiet (.dropImport i) := fun _ h => by cases h
  unfold dropImport
  split
  · exact .idle quiet rfl rfl rfl
  next states ticket hi => exact .dropped hi rfl rfl rfl
  next states stage hdone hcomputing hi =>
    have hdropped : Import.Stage.Unserved .dropped := trivial
    cases stage with
    | begun request => exact .moved quiet hi trivial hdropped rfl rfl rfl
    | fetching request early attempt till => exact .moved quiet hi trivial hdropped rfl rfl rfl
    | computing ticket => exact absurd rfl (hcomputing ticket)
    | done result => exact absurd rfl (hdone result)
    | dropped =>
      refine .idle quiet rfl rfl ?_
      obtain ⟨hlt, hget⟩ := List.getElem?_eq_some_iff.1 hi
      rw [setImport_imports, ← hget, List.set_getElem_self]
  · exact .idle quiet rfl rfl rfl

theorem turn_endComputation {comp : Computation} {l₀ : Loader}
    {result : Except ImportError Record} (before : l.computations[c]? = some comp)
    (under : comp.stage ≠ .ended) (ends : comp.Ends result) (hf : l₀.flights = l.flights)
    (hc : l₀.computations = l.computations) (hi : l₀.imports = l.imports) :
    Turn l (.pollComputation c) (l₀.endComputation c result) := by
  refine .ended before under ends ?_ ?_ hi
  · rw [← hf]
    cases result <;> rfl
  · rw [← hc]
    rfl

theorem turn_continueWork {comp : Computation} {l₀ : Loader} {step : Work ⊕ CallEnd}
    (before : l.computations[c]? = some comp) (under : comp.stage ≠ .ended)
    (goes : ∀ work, step = .inl work → comp.Leads work.outcome)
    (stops : ∀ o, step = .inr (.outcome o) → comp.Leads o) (hf : l₀.flights = l.flights)
    (hc : l₀.computations = l.computations) (hi : l₀.imports = l.imports) :
    Turn l (.pollComputation c) (l₀.continueWork c comp step) := by
  cases step with
  | inl work => exact .worked (fun _ h => by cases h) before (goes work rfl) hf (by rw [← hc]; rfl) hi
  | inr e =>
    exact turn_endComputation before under (.ofCall fun o ho => stops o (by rw [ho])) hf hc hi

theorem turn_pollComputation (l : Loader) (c : Nat) :
    Turn l (.pollComputation c) (l.pollComputation c) := by
  have quiet : l.Quiet (.pollComputation c) := fun _ h => by cases h
  unfold pollComputation
  split
  next comp hc =>
    split
    next hs =>
      have under : comp.stage ≠ .ended := by simp [hs]
      unfold callHandler
      dsimp only
      split
      next message hcall => exact turn_endComputation hc under (.fault _) rfl rfl rfl
      next activity hcall =>
        -- the outcome before the call is that of the activity it has started
        have hlead : comp.Leads activity.outcome := by
          unfold Computation.Leads
          rw [hs]
          refine ⟨(l.calls.get? comp.descriptor.handler.id).getD 0, ?_⟩
          rw [Computation.call, hcall]
          rfl
        refine turn_continueWork hc under (fun work hw => ?_) (fun o ho => ?_) rfl rfl rfl
        · rw [Work.poll_inl hw, Work.outcome_start]
          exact hlead
        · rcases Work.poll_end ho with he | he
          · cases he
            rw [Work.outcome_start]
            exact hlead
          · cases he
    next work hs =>
      have under : comp.stage ≠ .ended := by simp [hs]
      have hlead : comp.Leads work.outcome := by
        unfold Computation.Leads
        rw [hs]
      refine turn_continueWork hc under (fun work' hw => ?_) (fun o ho => ?_) rfl rfl rfl
      · rw [Work.poll_inl hw]
        exact hlead
      · rcases Work.poll_end ho with he | he
        · cases he
          exact hlead
        · cases he
    next => exact .idle quiet rfl rfl rfl
  next => exact .idle quiet rfl rfl rfl

theorem turn_pollHandler (quiet : l.Quiet e) (c : Nat) : Turn l e (l.pollHandler c) := by
  unfold pollHandler
  split
  next comp hc =>
    split
    next work hs =>
      refine .worked quiet hc ?_ rfl rfl rfl
      unfold Computation.Leads
      rw [hs, Work.outcome_pollTask]
    next => exact .idle quiet rfl rfl rfl
  next => exact .idle quiet rfl rfl rfl

/-- **Every event is a turn.** -/
theorem turn_after (l : Loader) (e : Event) : Turn l e (l.after e) := by
  cases e with
  | startImport specifier referrer a bindings =>
    exact turn_startImport (fun _ h => by cases h) specifier referrer a bindings
  | submit request => exact turn_submit (fun _ h => by cases h) request
  | pollImport i => exact turn_pollImport l i
  | pollComputation c => exact turn_pollComputation l c
  | pollHandler c => exact turn_pollHandler (fun _ h => by cases h) c
  | dropImport i => exact turn_dropImport l i
  | define types handler => exact .idle (fun _ h => by cases h) rfl rfl rfl
  | registerModule path result => exact .idle (fun _ h => by cases h) rfl rfl rfl
  | clear => exact .cleared
  | invalidate url => exact .invalidated
  | changeFeed feed => exact .idle (fun _ h => by cases h) rfl rfl rfl
  | changeHost host => exact .idle (fun _ h => by cases h) rfl rfl rfl
  | openGate gate => exact .idle (fun _ h => by cases h) rfl rfl rfl
  | pass ms => exact .idle (fun _ h => by cases h) rfl rfl rfl

end Loader

end TypedImport
