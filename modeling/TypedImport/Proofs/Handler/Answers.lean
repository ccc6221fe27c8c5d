import Mathlib.Data.List.Induction
import TypedImport.Handler.Native

/-!
# What a host is remembered to have said

A host is asked whether it supports a type for a media type, and whether it has a handler for a type. Of
either question the first answer stands, for all that is asked in the same words up to the case of a media
type (`NativeQuestion.folded`), whatever the host would say later. `Recalled` says this of a run of
questions and changes of the host in any order.

**One rule for both questions.** They are remembered in tables of their own, but follow one rule: a question
that was answered is answered as before and not passed on, any other is put to the host in its own words and
its answer is written down (`ask_of_remembered`, `ask_of_new`). So what is remembered after a run is read
off the run itself (`remembered?_run`).

**Case.** A table of handlers does not look at the case of a media type, so for a table that stays as it is
the remembered answers are its own (`standing_of_alike`). A host of another kind may tell cases apart; then
the spelling that it was asked in first counts.
-/

namespace TypedImport

namespace NativeQuestion

/-- A question up to the case of its media type: under this its answer is remembered. -/
def folded : NativeQuestion → NativeQuestion
  | .supports type media => .supports type (Text.lower media)
  | .handlerFor type => .handlerFor type

/-- **What a host says to a question** when it is put to it in these words. -/
def answer (host : NativeHost) : NativeQuestion → Bool
  | .supports type media => host.supports type media
  | .handlerFor type => (host.handlerFor type).isSome

end NativeQuestion

/-- **A table says the same in any case.** -/
theorem NativeTable.answer_congr (t : NativeTable) {q q' : NativeQuestion} (h : q'.folded = q.folded) :
    q'.answer t.host = q.answer t.host := by
  cases q with
  | supports type media =>
    cases q' with
    | supports type' media' =>
      obtain ⟨rfl, hmedia⟩ := NativeQuestion.supports.inj h
      show t.supports type' media' = t.supports type' media
      unfold NativeTable.supports
      rw [hmedia]
    | handlerFor type' => cases h
  | handlerFor type =>
    cases q' with
    | supports type' media' => cases h
    | handlerFor type' =>
      cases h
      rfl

namespace NativeMemo

variable {c : NativeMemo} {host : NativeHost} {q q' : NativeQuestion}

/-- The answer that is remembered for a question. -/
def remembered? (c : NativeMemo) : NativeQuestion → Option Bool
  | .supports type media => c.available.get? (type, Text.lower media)
  | .handlerFor type => c.offered.get? type

/-- **A question is asked.** -/
def ask (c : NativeMemo) : NativeQuestion → Bool × NativeMemo
  | .supports type media => c.supports type media
  | .handlerFor type => c.offers type

theorem remembered?_congr (h : q'.folded = q.folded) : c.remembered? q' = c.remembered? q := by
  cases q <;> cases q' <;> simp_all [NativeQuestion.folded, remembered?]

/-- **What was answered is answered as before**, and nobody is asked. -/
theorem ask_of_remembered {answer : Bool} (h : c.remembered? q = some answer) : c.ask q = (answer, c) := by
  cases q with
  | supports type media =>
    unfold remembered? at h
    unfold ask NativeMemo.supports
    dsimp only at h ⊢
    rw [h]
  | handlerFor type =>
    unfold remembered? at h
    unfold ask offers
    dsimp only at h ⊢
    rw [h]

/-- **What happens to a question that was not answered before**: it is put to the host, and the answer is
written down for all questions that are the same up to case. -/
structure Asks (c : NativeMemo) (q : NativeQuestion) (c' : NativeMemo) : Prop where
  host : c'.host = c.host
  asked : c'.asked = q :: c.asked
  remembered : ∀ q', c'.remembered? q' =
    if q'.folded = q.folded then some (q.answer c.host) else c.remembered? q'

theorem ask_of_new (h : c.remembered? q = none) :
    (c.ask q).1 = q.answer c.host ∧ c.Asks q (c.ask q).2 := by
  cases q with
  | supports type media =>
    have fresh : c.available.get? (type, Text.lower media) = none := h
    have done : c.ask (.supports type media) =
        (c.host.supports type media,
          { c with
            available := c.available.put (type, Text.lower media) (c.host.supports type media)
            asked := .supports type media :: c.asked }) := by
      unfold ask NativeMemo.supports
      dsimp only
      rw [fresh]
    rw [done]
    refine ⟨rfl, rfl, rfl, fun q' => ?_⟩
    cases q' with
    | supports type' media' => simp [remembered?, NativeQuestion.folded, Table.get?_put, NativeQuestion.answer]
    | handlerFor type' => simp [remembered?, NativeQuestion.folded]
  | handlerFor type =>
    have fresh : c.offered.get? type = none := h
    have done : c.ask (.handlerFor type) =
        ((c.host.handlerFor type).isSome,
          { c with
            offered := c.offered.put type (c.host.handlerFor type).isSome
            asked := .handlerFor type :: c.asked }) := by
      unfold ask offers
      dsimp only
      rw [fresh]
    rw [done]
    refine ⟨rfl, rfl, rfl, fun q' => ?_⟩
    cases q' with
    | supports type' media' => simp [remembered?, NativeQuestion.folded]
    | handlerFor type' => simp [remembered?, NativeQuestion.folded, Table.get?_put, NativeQuestion.answer]

theorem ask_fst (c : NativeMemo) (q : NativeQuestion) :
    (c.ask q).1 = (c.remembered? q).getD (q.answer c.host) := by
  cases h : c.remembered? q with
  | some answer => rw [ask_of_remembered h, Option.getD_some]
  | none => rw [(ask_of_new h).1, Option.getD_none]

/-! ## Runs -/

/-- **What happens to a host with remembered answers.** -/
inductive Event where
  | ask (q : NativeQuestion)
  /-- The handler for a type is asked for itself; nothing is remembered of it. -/
  | handler (type : String)
  /-- Other things are true of the host from now on. -/
  | changeHost (host : NativeHost)

namespace Event

/-- Whether an event asks a question, in any case. -/
def puts (q : NativeQuestion) : Event → Bool
  | .ask q' => q'.folded = q.folded
  | _ => false

/-- Whether an event puts a question to the host without looking at what is remembered. -/
def passesOn (q : NativeQuestion) : Event → Bool
  | .handler type => q = .handlerFor type
  | _ => false

/-- Whether an event may have to do with the answer to a question. -/
def matters (q : NativeQuestion) : Event → Bool
  | .ask q' => q'.folded = q.folded
  | .handler _ => false
  | .changeHost _ => true

end Event

def after (c : NativeMemo) : Event → NativeMemo
  | .ask q => (c.ask q).2
  | .handler type => (c.handler? type).2
  | .changeHost host => c.withHost host

/-- **A host with remembered answers after a run of events**; nothing is remembered before it. -/
def run (host : NativeHost) (events : List Event) : NativeMemo :=
  events.foldl after { host }

/-- The host as it is after a run. -/
def hostAfter (host : NativeHost) : List Event → NativeHost
  | [] => host
  | .changeHost host :: later => hostAfter host later
  | _ :: later => hostAfter host later

/-- **The first answer to a question in a run**: what the host as it was then said to it, in the words that
it was first asked in. -/
def firstAnswer (q : NativeQuestion) (host : NativeHost) : List Event → Option Bool
  | [] => none
  | .ask q' :: later => if q'.folded = q.folded then some (q'.answer host) else firstAnswer q host later
  | .handler _ :: later => firstAnswer q host later
  | .changeHost host :: later => firstAnswer q host later

/-- **What stands as the answer to a question after a run**: the first answer, or what the host says now. -/
def standing (host : NativeHost) (events : List Event) (q : NativeQuestion) : Bool :=
  (firstAnswer q host events).getD (q.answer (hostAfter host events))

variable {events before later : List Event}

theorem run_concat (host : NativeHost) (events : List Event) (e : Event) :
    run host (events ++ [e]) = (run host events).after e := by
  simp [run]

theorem firstAnswer_ask (q q' : NativeQuestion) (host : NativeHost) (later : List Event) :
    firstAnswer q host (.ask q' :: later) =
      if q'.folded = q.folded then some (q'.answer host) else firstAnswer q host later := rfl

@[simp] theorem ask_host (c : NativeMemo) (q : NativeQuestion) : (c.ask q).2.host = c.host := by
  cases h : c.remembered? q with
  | some answer => rw [ask_of_remembered h]
  | none => exact (ask_of_new h).2.host

theorem remembered?_ask (c : NativeMemo) (q q' : NativeQuestion) :
    (c.ask q).2.remembered? q' =
      (c.remembered? q').or (if q.folded = q'.folded then some (q.answer c.host) else none) := by
  cases h : c.remembered? q with
  | some answer =>
    rw [ask_of_remembered h]
    split
    next same => simp [← remembered?_congr same, h]
    next => simp
  | none =>
    rw [(ask_of_new h).2.remembered]
    by_cases same : q'.folded = q.folded
    · simp [same, remembered?_congr same, h]
    · simp [same, Ne.symm same]

/-- What is remembered after some events: what was before them, or else the first answer among them. -/
theorem remembered?_foldl (c : NativeMemo) (events : List Event) (q : NativeQuestion) :
    (events.foldl after c).remembered? q = (c.remembered? q).or (firstAnswer q c.host events) := by
  induction events generalizing c with
  | nil => simp [firstAnswer]
  | cons e later ih =>
    rw [List.foldl_cons, ih]
    cases e with
    | ask q' =>
      show ((c.ask q').2.remembered? q).or (firstAnswer q (c.ask q').2.host later) = _
      rw [remembered?_ask, ask_host, Option.or_assoc, firstAnswer_ask]
      split <;> simp
    | handler type => rfl
    | changeHost host => rfl

/-- **What is remembered after a run is the first answer in it.** -/
theorem remembered?_run (host : NativeHost) (events : List Event) (q : NativeQuestion) :
    (run host events).remembered? q = firstAnswer q host events := by
  have nothing : ({ host } : NativeMemo).remembered? q = none := by cases q <;> rfl
  unfold run
  rw [remembered?_foldl, nothing, Option.none_or]

theorem host_foldl (c : NativeMemo) (events : List Event) :
    (events.foldl after c).host = hostAfter c.host events := by
  induction events generalizing c with
  | nil => rfl
  | cons e later ih =>
    rw [List.foldl_cons, ih]
    cases e with
    | ask q => exact congrArg (hostAfter · later) (ask_host c q)
    | handler type => rfl
    | changeHost host => rfl

theorem host_run (host : NativeHost) (events : List Event) : (run host events).host = hostAfter host events :=
  host_foldl ..

/-- **A question is answered with what stands.** -/
theorem ask_run (host : NativeHost) (events : List Event) (q : NativeQuestion) :
    ((run host events).ask q).1 = standing host events q := by
  rw [ask_fst, remembered?_run, host_run, standing]

/-! ## First answers -/

theorem firstAnswer_congr (h : q'.folded = q.folded) (host : NativeHost) (events : List Event) :
    firstAnswer q' host events = firstAnswer q host events := by
  rw [← remembered?_run, ← remembered?_run, remembered?_congr h]

theorem firstAnswer_append (q : NativeQuestion) (host : NativeHost) (before later : List Event) :
    firstAnswer q host (before ++ later) =
      (firstAnswer q host before).or (firstAnswer q (hostAfter host before) later) := by
  have first := remembered?_foldl (run host before) later q
  rw [remembered?_run, host_run] at first
  rw [← first, ← remembered?_run, run, run, List.foldl_append]

/-- A question has an answer once it was asked. -/
theorem isSome_firstAnswer (q : NativeQuestion) (host : NativeHost) (events : List Event) :
    (firstAnswer q host events).isSome = events.any (Event.puts q) := by
  induction events generalizing host with
  | nil => rfl
  | cons e later ih =>
    cases e with
    | ask q' =>
      rw [firstAnswer_ask]
      split
      next same => simp [Event.puts, same]
      next same => simp [Event.puts, same, ih]
    | handler type => simpa [firstAnswer, Event.puts] using ih host
    | changeHost host' => simpa [firstAnswer, Event.puts] using ih host'

theorem firstAnswer_filter (q : NativeQuestion) (host : NativeHost) (events : List Event) :
    firstAnswer q host (events.filter (Event.matters q)) = firstAnswer q host events := by
  induction events generalizing host with
  | nil => rfl
  | cons e later ih =>
    cases e with
    | ask q' =>
      by_cases same : q'.folded = q.folded
      · simp [Event.matters, same, firstAnswer_ask]
      · simp [Event.matters, same, firstAnswer_ask, ih]
    | handler type => exact ih host
    | changeHost host' => exact ih host'

theorem hostAfter_filter (q : NativeQuestion) (host : NativeHost) (events : List Event) :
    hostAfter host (events.filter (Event.matters q)) = hostAfter host events := by
  induction events generalizing host with
  | nil => rfl
  | cons e later ih =>
    cases e with
    | ask q' => by_cases same : q'.folded = q.folded <;> simp [Event.matters, same, hostAfter, ih]
    | handler type => exact ih host
    | changeHost host' => exact ih host'

/-- **Nothing changes about the host in a run.** -/
def Steady (events : List Event) : Prop :=
  ∀ host, .changeHost host ∉ events

theorem hostAfter_of_steady (h : Steady events) (host : NativeHost) : hostAfter host events = host := by
  induction events with
  | nil => rfl
  | cons e later ih =>
    have rest : Steady later := fun host' hmem => h host' (List.mem_cons_of_mem _ hmem)
    cases e with
    | ask q => exact ih rest
    | handler type => exact ih rest
    | changeHost host' => exact absurd List.mem_cons_self (h host')

/-- An answer of a steady host was given to some spelling of the question. -/
theorem exists_asked_of_firstAnswer (h : Steady events) {answer : Bool}
    (first : firstAnswer q host events = some answer) :
    ∃ q', .ask q' ∈ events ∧ q'.folded = q.folded ∧ answer = q'.answer host := by
  induction events with
  | nil => cases first
  | cons e later ih =>
    have rest : Steady later := fun host' hmem => h host' (List.mem_cons_of_mem _ hmem)
    have onward (found : firstAnswer q host later = some answer) :
        ∃ q', .ask q' ∈ e :: later ∧ q'.folded = q.folded ∧ answer = q'.answer host := by
      obtain ⟨q', hmem, hq'⟩ := ih rest found
      exact ⟨q', List.mem_cons_of_mem _ hmem, hq'⟩
    cases e with
    | ask q' =>
      rw [firstAnswer_ask] at first
      split at first
      next same =>
        cases first
        exact ⟨q', List.mem_cons_self, same, rfl⟩
      next => exact onward first
    | handler type => exact onward first
    | changeHost host' => exact absurd List.mem_cons_self (h host')

/-- **What stands is what a steady host says**, if it says the same to every spelling that it was asked. -/
theorem standing_of_alike (h : Steady events)
    (alike : ∀ q', .ask q' ∈ events → q'.folded = q.folded → q'.answer host = q.answer host) :
    standing host events q = q.answer host := by
  unfold standing
  rw [hostAfter_of_steady h]
  cases first : firstAnswer q host events with
  | none => rfl
  | some answer =>
    obtain ⟨q', hmem, same, rfl⟩ := exists_asked_of_firstAnswer h first
    exact alike q' hmem same

theorem standing_of_table (h : Steady events) (t : NativeTable) (q : NativeQuestion) :
    standing t.host events q = q.answer t.host :=
  standing_of_alike h fun _ _ same => t.answer_congr same

/-- **How often the host is asked a question.** -/
theorem countP_asked_run (host : NativeHost) (events : List Event) (q : NativeQuestion) :
    (run host events).asked.countP (fun q' => q'.folded = q.folded) =
      (if events.any (Event.puts q) then 1 else 0) + events.countP (Event.passesOn q) := by
  induction events using List.reverseRecOn with
  | nil => rfl
  | append_singleton events e ih =>
    rw [run_concat, List.any_append, List.countP_append]
    cases e with
    | ask q' =>
      have known := isSome_firstAnswer q' host events
      rw [← remembered?_run] at known
      cases h : (run host events).remembered? q' with
      | some answer =>
        -- an answer is there for every question that this one is the same as
        have before (same : q'.folded = q.folded) : events.any (Event.puts q) = true := by
          rw [← isSome_firstAnswer q host, ← firstAnswer_congr same, isSome_firstAnswer, ← known, h]
          rfl
        show ((run host events).ask q').2.asked.countP _ = _
        rw [ask_of_remembered h, ih]
        by_cases same : q'.folded = q.folded
        · simp [before same, Event.puts, Event.passesOn, same]
        · simp [Event.puts, Event.passesOn, same]
      | none =>
        have before (same : q'.folded = q.folded) : events.any (Event.puts q) = false := by
          rw [← isSome_firstAnswer q host, ← firstAnswer_congr same, isSome_firstAnswer, ← known, h]
          rfl
        show ((run host events).ask q').2.asked.countP _ = _
        rw [(ask_of_new h).2.asked, List.countP_cons, ih]
        by_cases same : q'.folded = q.folded
        · simp [before same, Event.puts, Event.passesOn, same, Nat.add_comm]
        · simp [Event.puts, Event.passesOn, same]
    | handler type =>
      show (NativeQuestion.handlerFor type :: (run host events).asked).countP _ = _
      rw [List.countP_cons, ih]
      cases q with
      | supports type' media => simp [Event.puts, Event.passesOn, NativeQuestion.folded]
      | handlerFor type' =>
        by_cases same : type = type'
        · simp [Event.puts, Event.passesOn, NativeQuestion.folded, same, Nat.add_assoc]
        · simp [Event.puts, Event.passesOn, NativeQuestion.folded, same, Ne.symm same]
    | changeHost host' =>
      show (run host events).asked.countP _ = _
      rw [ih]
      simp [Event.puts, Event.passesOn]

/-- **What a host with remembered answers says after a run of questions and changes.** -/
structure Recalled (host : NativeHost) (events : List Event) : Prop where
  /-- A question is answered as it was answered every time before, in any case. -/
  again : ∀ before q later, events = before ++ .ask q :: later → ∀ q', q'.folded = q.folded →
    ((run host events).ask q').1 = ((run host before).ask q).1
  /-- The first time it is what the host says just then, to these very words. -/
  first : ∀ q, (∀ q', .ask q' ∈ events → q'.folded ≠ q.folded) →
    ((run host events).ask q).1 = q.answer (hostAfter host events)
  /-- The host is asked once what has been asked at all, and each time for a handler itself. -/
  once : ∀ q, (run host events).asked.countP (fun q' => q'.folded = q.folded) =
    (if events.any (Event.puts q) then 1 else 0) + events.countP (Event.passesOn q)
  /-- No other question makes a difference to an answer. -/
  apart : ∀ q, ((run host events).ask q).1 = ((run host (events.filter (Event.matters q))).ask q).1
  /-- A table that stays as it is might as well have been asked itself, in the same words. -/
  table : ∀ t : NativeTable, host = t.host → Steady events →
    ∀ q, ((run host events).ask q).1 = q.answer t.host

/-- **First answers stand**, each question is put to the host once, and nothing shows of it as long as the
host is a table that stays as it is. -/
theorem recalled_run (host : NativeHost) (events : List Event) : Recalled host events where
  again before q later hsplit q' same := by
    subst hsplit
    have given : firstAnswer q (hostAfter host before) (.ask q :: later) =
        some (q.answer (hostAfter host before)) := by
      rw [firstAnswer_ask, if_pos rfl]
    rw [ask_run, ask_run, standing, standing, firstAnswer_congr same, firstAnswer_append, given]
    cases firstAnswer q host before <;> rfl
  first q unasked := by
    have none_puts : events.any (Event.puts q) = false := by
      rw [List.any_eq_false]
      intro e he
      cases e with
      | ask q' => simpa [Event.puts] using unasked q' he
      | handler type => simp [Event.puts]
      | changeHost host' => simp [Event.puts]
    have nothing : firstAnswer q host events = none := by
      rw [← Option.isNone_iff_eq_none, ← Option.not_isSome, isSome_firstAnswer, none_puts, Bool.not_false]
    rw [ask_run, standing, nothing, Option.getD_none]
  once := countP_asked_run host events
  apart q := by
    rw [ask_run, ask_run, standing, standing, firstAnswer_filter, hostAfter_filter]
  table t htable steady q := by
    subst htable
    rw [ask_run, standing_of_table steady]

end NativeMemo

end TypedImport
