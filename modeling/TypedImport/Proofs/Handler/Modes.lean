import TypedImport.Proofs.Handler.Work

/-!
# In place and as a task

The handler of a call works in the place of its caller or as a task of its own. The modes part in who polls
the handler and in whose turn comes first, so one call may go in many ways. `Work.Runs` has all of them:
turns come in any order and as often as one likes, and the clock goes on only when nobody is ready, and
never past the next time that somebody waits for.

**Nothing of this shows.** What a call has before it is when its handler will be done (`Work.endTime?`), how,
and when the caller gives up. No turn changes these, and together they tell the end (`Work.verdict`). The
one exception is a handler that is done just when its caller gives up: there it is the order of turns
that decides.
-/

namespace TypedImport

variable {now time timeout : Nat} {opened : String → Bool}

/-- **How long an activity takes**, if it comes to an end. -/
def Activity.time? (opened : String → Bool) : Activity → Option Nat
  | .finish _ => some 0
  | .sleep ms next => (next.time? opened).map (ms + ·)
  | .gate name next => if opened name then next.time? opened else none

/-- How long the handler of a call takes, if it comes to an end; a call that breaks off takes no time. -/
def Call.time? (opened : String → Bool) : Call → Option Nat
  | .panicked _ => some 0
  | .started activity => activity.time? opened

/-- **How a call ends whose handler is done at some time, or never, and when**: with the outcome of the handler
if that is there before the deadline, and otherwise at the deadline. -/
def CallEnd.within (deadline : Nat) (o : Outcome) : Option Nat → CallEnd × Nat
  | some time => if time < deadline then (.outcome o, time) else (.timedOut, deadline)
  | none => (.timedOut, deadline)

theorem CallEnd.within_of_le {deadline : Nat} {o : Outcome} {time? : Option Nat}
    (h : ∀ time, time? = some time → deadline ≤ time) :
    CallEnd.within deadline o time? = (.timedOut, deadline) := by
  cases time? with
  | some time => exact if_neg (Nat.not_lt.mpr (h time rfl))
  | none => rfl

/-- A call takes as long as its handler, but not longer than until its deadline. -/
theorem CallEnd.within_snd (deadline : Nat) (o : Outcome) (time? : Option Nat) :
    (CallEnd.within deadline o time?).2 = (time?.map (min · deadline)).getD deadline := by
  cases time? with
  | some time =>
    by_cases hlt : time < deadline
    · simp [CallEnd.within, hlt, Nat.min_eq_left (Nat.le_of_lt hlt)]
    · simp [CallEnd.within, hlt, Nat.min_eq_right (Nat.not_lt.mp hlt)]
  | none => rfl

namespace Running

/-- When the wait of an activity is over: now, unless it sleeps or a gate is closed. -/
def resumeTime? (now : Nat) (opened : String → Bool) (r : Running) : Option Nat :=
  match r.wait with
  | none => some now
  | some (.till time) => some time
  | some (.gate name) => if opened name then some now else none

/-- When an activity under way will be over. -/
def endTime? (now : Nat) (opened : String → Bool) (r : Running) : Option Nat :=
  (r.resumeTime? now opened).bind fun time => (r.next.time? opened).map (time + ·)

/-- When what a turn has left will be over: now, if it is over. -/
def overAt? (now : Nat) (opened : String → Bool) : Running ⊕ Outcome → Option Nat
  | .inl r => r.endTime? now opened
  | .inr _ => some now

theorem overAt?_advance (a : Activity) :
    overAt? now opened (advance now opened a) = (a.time? opened).map (now + ·) := by
  induction a with
  | finish o => rfl
  | sleep ms next ih =>
    unfold advance
    split
    next h => simpa [Activity.time?, h, Function.comp_def] using ih
    next => simp [overAt?, endTime?, resumeTime?, Activity.time?, Function.comp_def, Nat.add_assoc]
  | gate name next ih =>
    unfold advance
    split
    next h => simpa [Activity.time?, h] using ih
    next h => simp [overAt?, endTime?, resumeTime?, Activity.time?, h]

/-- A turn that leaves an activity under way leaves it to a wait that is not over. -/
theorem not_ready_of_advance {a : Activity} {r : Running} (h : advance now opened a = .inl r) :
    r.isReady now opened = false ∧ r.next.waits < a.waits := by
  induction a with
  | finish o => cases h
  | sleep ms next ih =>
    unfold advance at h
    split at h
    next => exact ⟨(ih h).1, Nat.lt_succ_of_lt (ih h).2⟩
    next hms =>
      cases h
      exact ⟨decide_eq_false (by omega), Nat.lt_succ_self _⟩
  | gate name next ih =>
    unfold advance at h
    split at h
    next => exact ⟨(ih h).1, Nat.lt_succ_of_lt (ih h).2⟩
    next hclosed =>
      cases h
      exact ⟨Bool.eq_false_iff.mpr hclosed, Nat.lt_succ_self _⟩

variable {r r' : Running}

theorem not_ready_of_poll (h : r.poll now opened = .inl r') : r'.isReady now opened = false := by
  unfold poll at h
  split at h
  next => exact (not_ready_of_advance h).1
  next hnot =>
    cases h
    exact Bool.eq_false_iff.mpr hnot

/-- The clock has not gone past the time that an activity sleeps for. -/
def Awaited (now : Nat) (r : Running) : Prop :=
  ∀ time, r.wakeTime? = some time → now ≤ time

theorem awaited_of_not_ready (h : r.isReady now opened = false) : r.Awaited now := by
  intro time hwake
  rcases r with ⟨_ | ⟨wake⟩ | ⟨name⟩, next⟩
  · cases hwake
  · cases hwake
    have hnot : ¬ time ≤ now := of_decide_eq_false h
    omega
  · cases hwake

/-- The next time of an activity with a deadline is not past if neither of the two is. -/
theorem le_next_iff {d : Nat} :
    now ≤ (r.wakeTime?.map (min · d)).getD d ↔ r.Awaited now ∧ now ≤ d := by
  unfold Awaited
  cases r.wakeTime? with
  | none => simp
  | some wake =>
    have both : now ≤ min wake d ↔ now ≤ wake ∧ now ≤ d := Nat.le_min
    simp [both]

theorem resumeTime?_of_ready (ready : r.isReady now opened = true) (awaited : r.Awaited now) :
    r.resumeTime? now opened = some now := by
  rcases r with ⟨_ | ⟨wake⟩ | ⟨name⟩, next⟩
  · rfl
  · have hle : wake ≤ now := of_decide_eq_true ready
    exact congrArg some (Nat.le_antisymm hle (awaited wake rfl))
  · exact if_pos ready

theorem overAt?_poll (opened : String → Bool) (awaited : r.Awaited now) :
    overAt? now opened (r.poll now opened) = r.endTime? now opened := by
  unfold poll
  split
  next ready =>
    rw [overAt?_advance, endTime?, resumeTime?_of_ready ready awaited]
    rfl
  next => rfl

/-- What is not ready is over when it is over, whatever the clock says. -/
theorem endTime?_of_not_ready (h : r.isReady now opened = false) (next : Nat) :
    r.endTime? next opened = r.endTime? now opened := by
  rcases r with ⟨_ | ⟨wake⟩ | ⟨name⟩, rest⟩
  · cases h
  · rfl
  · have hclosed : ¬ opened name = true := Bool.eq_false_iff.mp h
    simp only [endTime?, resumeTime?, if_neg hclosed, Option.bind_none]

theorem le_of_resumeTime? (awaited : r.Awaited now) (h : r.resumeTime? now opened = some time) :
    now ≤ time := by
  rcases r with ⟨_ | ⟨wake⟩ | ⟨name⟩, next⟩
  · exact Nat.le_of_eq (Option.some.inj h)
  · cases h
    exact awaited time rfl
  · simp only [resumeTime?] at h
    split at h
    · exact Nat.le_of_eq (Option.some.inj h)
    · cases h

theorem le_of_endTime? (awaited : r.Awaited now) (h : r.endTime? now opened = some time) :
    now ≤ time := by
  obtain ⟨start, hstart, hend⟩ := Option.bind_eq_some_iff.mp h
  obtain ⟨ms, -, rfl⟩ := Option.map_eq_some_iff.mp hend
  exact Nat.le_add_right_of_le (le_of_resumeTime? awaited hstart)

end Running

namespace Work

variable {w w' : Work} {e : CallEnd}

/-- **A way that a call under way may go**, to how it ends and when. -/
inductive Runs (opened : String → Bool) : Work → Nat → CallEnd → Nat → Prop
  /-- The task has a turn. -/
  | task {w : Work} {now time : Nat} {e : CallEnd}
    (rest : Runs opened (w.pollTask now opened) now e time) : Runs opened w now e time
  /-- The caller has a turn and waits on. -/
  | turn {w w' : Work} {now time : Nat} {e : CallEnd} (waits : w.poll now opened = .inl w')
    (rest : Runs opened w' now e time) : Runs opened w now e time
  /-- The caller has a turn, and the call is over. -/
  | ends {w : Work} {now : Nat} {e : CallEnd} (ended : w.poll now opened = .inr e) :
    Runs opened w now e now
  /-- Nobody is ready, and the clock goes on. -/
  | clock {w : Work} {now next time : Nat} {e : CallEnd} (idle : w.taskIsReady now opened = false)
    (still : w.isReady now opened = false) (later : now ≤ next) (within : next ≤ w.nextTime)
    (rest : Runs opened w next e time) : Runs opened w now e time

/-- When the handler of a call under way will be done. -/
def endTime? (now : Nat) (opened : String → Bool) : Work → Option Nat
  | .inPlace running _ => running.endTime? now opened
  | .spawned task _ => Running.overAt? now opened task

/-- **How a call under way will end, and when.** -/
def verdict (now : Nat) (opened : String → Bool) (w : Work) : CallEnd × Nat :=
  CallEnd.within w.deadline w.outcome (w.endTime? now opened)

/-- A call is timely as long as the clock has not gone past the next time that somebody waits for. -/
theorem le_of_endTime? (timely : now ≤ w.nextTime) (h : w.endTime? now opened = some time) :
    now ≤ time := by
  rcases w with ⟨running, d⟩ | ⟨running | o, d⟩
  · exact Running.le_of_endTime? (Running.le_next_iff.mp timely).1 h
  · exact Running.le_of_endTime? (Running.le_next_iff.mp timely).1 h
  · exact Nat.le_of_eq (Option.some.inj h)

theorem le_deadline (timely : now ≤ w.nextTime) : now ≤ w.deadline := by
  rcases w with ⟨running, d⟩ | ⟨running | o, d⟩
  · exact (Running.le_next_iff.mp timely).2
  · exact (Running.le_next_iff.mp timely).2
  · exact timely

/-! ## What turns and the clock leave as it was -/

/-- **What is to come of a call is the same before and after**: when its handler will be done, how, and the
deadline. And the clock has not gone past what anybody waits for. -/
structure Same (opened : String → Bool) (w : Work) (now : Nat) (w' : Work) (next : Nat) : Prop where
  timely : next ≤ w'.nextTime
  endTime? : w'.endTime? next opened = w.endTime? now opened
  outcome : w'.outcome = w.outcome
  deadline : w'.deadline = w.deadline

theorem same_pollTask (opened : String → Bool) (timely : now ≤ w.nextTime) :
    w.Same opened now (w.pollTask now opened) now := by
  rcases w with ⟨running, d⟩ | ⟨running | o, d⟩
  · exact ⟨timely, rfl, rfl, rfl⟩
  · obtain ⟨awaited, hd⟩ := Running.le_next_iff.mp timely
    refine ⟨?_, Running.overAt?_poll opened awaited, outcome_pollTask _, rfl⟩
    simp only [pollTask]
    cases hp : running.poll now opened with
    | inl running' =>
      exact Running.le_next_iff.mpr ⟨Running.awaited_of_not_ready (Running.not_ready_of_poll hp), hd⟩
    | inr o => exact hd
  · exact ⟨timely, rfl, rfl, rfl⟩

theorem same_poll (timely : now ≤ w.nextTime) (h : w.poll now opened = .inl w') :
    w.Same opened now w' now := by
  rcases w with ⟨running, d⟩ | ⟨running | o, d⟩
  · obtain ⟨awaited, hd⟩ := Running.le_next_iff.mp timely
    cases hp : running.poll now opened with
    | inl running' =>
      have hover := Running.overAt?_poll opened awaited
      rw [hp] at hover
      have hw : w' = .inPlace running' d := by
        simp only [poll, hp] at h
        exact orTimeout_inl h
      have hwaits : running'.Awaited now := Running.awaited_of_not_ready (Running.not_ready_of_poll hp)
      refine ⟨?_, ?_, poll_inl h, ?_⟩
      · rw [hw]
        exact Running.le_next_iff.mpr ⟨hwaits, hd⟩
      · rw [hw]
        exact hover
      · rw [hw]
        rfl
    | inr o => simp [poll, hp] at h
  · rw [orTimeout_inl h]
    exact ⟨timely, rfl, rfl, rfl⟩
  · cases h

theorem same_clock {next : Nat} (idle : w.taskIsReady now opened = false)
    (still : w.isReady now opened = false) (within : next ≤ w.nextTime) : w.Same opened now w next := by
  refine ⟨within, ?_, rfl, rfl⟩
  rcases w with ⟨running, d⟩ | ⟨running | o, d⟩
  · exact Running.endTime?_of_not_ready (Bool.or_eq_false_iff.mp still).1 next
  · exact Running.endTime?_of_not_ready idle next
  · cases still

theorem Same.verdict {next : Nat} (h : w.Same opened now w' next) :
    w'.verdict next opened = w.verdict now opened := by
  simp only [Work.verdict, h.endTime?, h.outcome, h.deadline]

theorem Same.untied {next : Nat} (h : w.Same opened now w' next)
    (untied : w.endTime? now opened ≠ some w.deadline) : w'.endTime? next opened ≠ some w'.deadline := by
  rw [h.endTime?, h.deadline]
  exact untied

/-! ## How a call ends -/

/-- At a call's last turn either its handler is done or its deadline has come. -/
theorem ended_cases (timely : now ≤ w.nextTime) (ended : w.poll now opened = .inr e) :
    (e = .outcome w.outcome ∧ w.endTime? now opened = some now) ∨ (e = .timedOut ∧ w.deadline ≤ now) := by
  rcases w with ⟨running, d⟩ | ⟨running | o, d⟩
  · obtain ⟨awaited, -⟩ := Running.le_next_iff.mp timely
    have hover := Running.overAt?_poll opened awaited
    have hkept := Running.outcomeOf_poll now opened running
    cases hp : running.poll now opened with
    | inl running' =>
      simp only [poll, hp] at ended
      have hdeadline : (inPlace running' d).deadline ≤ now := le_of_orTimeout_inr ended
      exact .inr ⟨orTimeout_inr ended, hdeadline⟩
    | inr o =>
      simp only [poll, hp] at ended
      rw [hp] at hover hkept
      cases ended
      exact .inl ⟨congrArg CallEnd.outcome hkept, hover.symm⟩
  · exact .inr ⟨orTimeout_inr ended, le_of_orTimeout_inr ended⟩
  · cases ended
    exact .inl ⟨rfl, rfl⟩

theorem eq_verdict_of_ended (timely : now ≤ w.nextTime) (untied : w.endTime? now opened ≠ some w.deadline)
    (ended : w.poll now opened = .inr e) : (e, now) = w.verdict now opened := by
  have hle : now ≤ w.deadline := le_deadline timely
  obtain ⟨rfl, hend⟩ | ⟨rfl, hdeadline⟩ := ended_cases timely ended
  · have hne : now ≠ w.deadline := fun h => untied (h ▸ hend)
    have hlt : now < w.deadline := Nat.lt_of_le_of_ne hle hne
    rw [verdict, hend]
    exact (if_pos hlt).symm
  · have hnow : now = w.deadline := Nat.le_antisymm hle hdeadline
    have hlate : ∀ time, w.endTime? now opened = some time → w.deadline ≤ time :=
      fun time hend => hnow ▸ le_of_endTime? timely hend
    rw [verdict, CallEnd.within_of_le hlate, ← hnow]

/-- **However the turns fall, a call ends in the same way at the same time.** -/
theorem Runs.eq_verdict (runs : w.Runs opened now e time) (timely : now ≤ w.nextTime)
    (untied : w.endTime? now opened ≠ some w.deadline) : (e, time) = w.verdict now opened := by
  induction runs with
  | task rest ih =>
    have same := same_pollTask opened timely
    rw [ih same.timely (same.untied untied), same.verdict]
  | turn waits rest ih =>
    have same := same_poll timely waits
    rw [ih same.timely (same.untied untied), same.verdict]
  | ends ended => exact eq_verdict_of_ended timely untied ended
  | clock idle still later within rest ih =>
    have same := same_clock idle still within
    rw [ih same.timely (same.untied untied), same.verdict]

/-! ## A call left to itself -/

/-- How many waits are left to a call after the one that it may be in. -/
def waits : Work → Nat
  | .inPlace running _ => running.next.waits
  | .spawned (.inl running) _ => running.next.waits
  | .spawned (.inr _) _ => 0

/-- The task or the caller can go on. -/
def Stirs (now : Nat) (opened : String → Bool) (w : Work) : Prop :=
  w.taskIsReady now opened = true ∨ w.isReady now opened = true

theorem stirs_nextTime (w : Work) : w.Stirs w.nextTime opened := by
  have hover : ∀ (r : Running) (d : Nat),
      r.isReady ((r.wakeTime?.map (min · d)).getD d) opened = true ∨
        d ≤ (r.wakeTime?.map (min · d)).getD d := by
    intro r d
    rcases r with ⟨_ | ⟨wake⟩ | ⟨name⟩, next⟩
    · exact .inl rfl
    · rcases Nat.le_total wake d with hle | hle
      · exact .inl (decide_eq_true (by simp [Running.wakeTime?, Nat.min_eq_left hle]))
      · exact .inr (by simp [Running.wakeTime?, Nat.min_eq_right hle])
    · exact .inr (Nat.le_refl d)
  rcases w with ⟨running, d⟩ | ⟨running | o, d⟩
  · refine .inr (Bool.or_eq_true_iff.mpr ((hover running d).imp id ?_))
    exact decide_eq_true
  · exact (hover running d).imp id decide_eq_true
  · exact .inr rfl

/-- **A round of a call that stirs gets on**: it ends the call, or a wait less is left and nobody is ready. -/
theorem round_inl (stirs : w.Stirs now opened) (h : w.round now opened = .inl w') :
    w'.taskIsReady now opened = false ∧ w'.isReady now opened = false ∧ w'.waits < w.waits := by
  unfold round at h
  rcases w with ⟨running, d⟩ | ⟨running | o, d⟩
  · cases hp : running.poll now opened with
    | inl running' =>
      simp only [pollTask, poll, hp] at h
      obtain rfl := orTimeout_inl h
      have hd : ¬ d ≤ now := Nat.not_le.mpr (lt_of_orTimeout_inl h)
      have hready : running.isReady now opened = true := by
        simpa [Stirs, taskIsReady, isReady, hd] using stirs
      obtain ⟨hnot, hwaits⟩ := Running.not_ready_of_advance ((if_pos hready).symm.trans hp)
      exact ⟨rfl, by simp [isReady, hnot, hd], hwaits⟩
    | inr o => simp [pollTask, poll, hp] at h
  · cases hp : running.poll now opened with
    | inl running' =>
      simp only [pollTask, poll, hp] at h
      obtain rfl := orTimeout_inl h
      have hd : ¬ d ≤ now := Nat.not_le.mpr (lt_of_orTimeout_inl h)
      have hready : running.isReady now opened = true := by
        simpa [Stirs, taskIsReady, isReady, hd] using stirs
      obtain ⟨hnot, hwaits⟩ := Running.not_ready_of_advance ((if_pos hready).symm.trans hp)
      exact ⟨hnot, decide_eq_false hd, hwaits⟩
    | inr o => simp [pollTask, poll, hp] at h
  · cases h

/-- **A call left to itself goes one of its ways to the end**, if it has a round for each wait and two more. -/
theorem runs_runAlone {rounds : Nat} (timely : now ≤ w.nextTime) (stirs : w.Stirs now opened)
    (enough : w.waits + 2 ≤ rounds) :
    w.Runs opened now (w.runAlone opened now rounds).1 (w.runAlone opened now rounds).2 := by
  induction rounds generalizing w now with
  | zero => omega
  | succ rounds ih =>
    unfold runAlone
    split
    next e h => exact .task (.ends h)
    next w' h =>
      obtain ⟨idle, still, hwaits⟩ := round_inl stirs h
      have htimely : now ≤ w'.nextTime := (same_poll (same_pollTask opened timely).timely h).timely
      have hrest := ih (Nat.le_refl w'.nextTime) (stirs_nextTime w') (by omega)
      exact .task (.turn h (.clock idle still htimely (Nat.le_refl _) hrest))

/-! ## From the start -/

theorem nextTime_start (origin : Origin) (a : Activity) :
    (start origin a now timeout).nextTime = now + timeout := by
  cases origin <;> rfl

theorem deadline_start (origin : Origin) (a : Activity) (now timeout : Nat) :
    (start origin a now timeout).deadline = now + timeout := by
  cases origin <;> rfl

theorem endTime?_start (origin : Origin) (a : Activity) (now timeout : Nat) (opened : String → Bool) :
    (start origin a now timeout).endTime? now opened = (a.time? opened).map (now + ·) := by
  cases origin <;> rfl

theorem waits_start (origin : Origin) (a : Activity) :
    (start origin a now timeout).waits = a.waits := by
  cases origin <;> rfl

theorem stirs_start (origin : Origin) (a : Activity) :
    (start origin a now timeout).Stirs now opened := by
  cases origin
  · exact .inr rfl
  all_goals exact .inl rfl

end Work

namespace Invoke

variable {limit : UInt64} {d d' : Descriptor} {asset : Asset} {key : CacheKey} {nth : Nat}

/-- **A way that a call may go**, to what it gives and how long it takes. -/
inductive EndsIn (limit : UInt64) (d : Descriptor) (asset : Asset) (key : CacheKey) (nth : Nat)
    (opened : String → Bool) : Except ImportError Record → Nat → Prop
  /-- The handler breaks off before there is any work. -/
  | panicked {message : String}
    (h : d.handler.call nth asset.bytes (asset.context key.type) = .panicked message) :
    EndsIn limit d asset key nth opened (.error (error d key (.panicked message))) 0
  | started {activity : Activity} {e : CallEnd} {time : Nat}
    (h : d.handler.call nth asset.bytes (asset.context key.type) = .started activity)
    (runs : (Work.start d.origin activity 0 limit.toNat).Runs opened 0 e time) :
    EndsIn limit d asset key nth opened (record limit d asset key e) time

/-- A call left to itself goes one of its ways. -/
theorem endsIn_alone :
    EndsIn limit d asset key nth opened (alone limit d asset key nth opened).1
      (alone limit d asset key nth opened).2 := by
  unfold alone
  split
  next message h => exact .panicked h
  next activity h =>
    refine .started h (Work.runs_runAlone ?_ (Work.stirs_start _ _) ?_)
    · rw [Work.nextTime_start]
      omega
    · exact Nat.le_of_eq (congrArg (· + 2) (Work.waits_start _ _))

/-- **What a call gives, and when, however its turns fall.** -/
theorem EndsIn.eq {result : Except ImportError Record} {time : Nat}
    (h : EndsIn limit d asset key nth opened result time)
    (untied : (d.handler.call nth asset.bytes (asset.context key.type)).time? opened ≠ some limit.toNat) :
    let call := d.handler.call nth asset.bytes (asset.context key.type)
    let last := CallEnd.within limit.toNat call.outcome (call.time? opened)
    result = record limit d asset key last.1 ∧ time = last.2 := by
  cases h with
  | @panicked message h =>
    simp only [h, Call.time?, Call.outcome] at untied ⊢
    have hlt : 0 < limit.toNat := Nat.pos_of_ne_zero fun h0 => untied (congrArg some h0.symm)
    rw [CallEnd.within, if_pos hlt]
    exact ⟨rfl, rfl⟩
  | @started activity e time h runs =>
    simp only [h, Call.time?, Call.outcome] at untied ⊢
    have hend := Work.endTime?_start d.origin activity 0 limit.toNat opened
    have hdeadline := Work.deadline_start d.origin activity 0 limit.toNat
    simp only [Nat.zero_add, Option.map_id_fun', id_eq] at hend hdeadline
    have hverdict := runs.eq_verdict (Nat.zero_le _) (by rw [hend, hdeadline]; exact untied)
    rw [Work.verdict, hend, hdeadline, Work.outcome_start] at hverdict
    rw [← hverdict]
    exact ⟨rfl, rfl⟩

/-- **What two calls give is alike**: records that differ in the origin at most, which is `origin` in the
second, or the very same error. -/
def Alike (origin : Origin) : Except ImportError Record → Except ImportError Record → Prop
  | .ok r, .ok r' => r' = { r with origin := origin }
  | .error e, .error e' => e' = e
  | _, _ => False

/-- The same end of a call gives the same under two descriptors of one handler. -/
theorem alike_record (id : d'.id = d.id) (e : CallEnd) :
    Alike d'.origin (record limit d asset key e) (record limit d' asset key e) := by
  unfold record
  cases exports limit e with
  | ok fields => exact rfl
  | error fault => exact congrArg (ImportError.handlerExecution key.url key.type · fault) id

/-- **A handler's call is the same under two descriptors**, whatever the mode that each of them stands for. -/
structure Agree (limit : UInt64) (d d' : Descriptor) (asset : Asset) (key : CacheKey) (nth : Nat)
    (opened : String → Bool) : Prop where
  /-- Under either descriptor the call comes to an end. -/
  ended : EndsIn limit d asset key nth opened (alone limit d asset key nth opened).1
      (alone limit d asset key nth opened).2 ∧
    EndsIn limit d' asset key nth opened (alone limit d' asset key nth opened).1
      (alone limit d' asset key nth opened).2
  /-- Whichever ways the two calls go, they give the same. -/
  alike : ∀ result result' time time', EndsIn limit d asset key nth opened result time →
    EndsIn limit d' asset key nth opened result' time' → Alike d'.origin result result'
  /-- And they take the same time: that of the handler, or the limit if that is less. -/
  lasts : ∀ result result' time time', EndsIn limit d asset key nth opened result time →
    EndsIn limit d' asset key nth opened result' time' →
    time' = time ∧ time = (((d.handler.call nth asset.bytes (asset.context key.type)).time? opened).map
      (min · limit.toNat)).getD limit.toNat

/-- **In place or as a task, a call comes to the same**, unless its handler is done just at the limit. -/
theorem agree_of_untied (handler : d'.handler = d.handler) (id : d'.id = d.id)
    (untied : (d.handler.call nth asset.bytes (asset.context key.type)).time? opened ≠ some limit.toNat) :
    Agree limit d d' asset key nth opened where
  ended := ⟨endsIn_alone, endsIn_alone⟩
  alike result result' time time' h h' := by
    obtain ⟨hresult, -⟩ := h.eq untied
    obtain ⟨hresult', -⟩ := h'.eq (by rw [handler]; exact untied)
    rw [handler] at hresult'
    rw [hresult, hresult']
    exact alike_record id _
  lasts result result' time time' h h' := by
    obtain ⟨-, htime⟩ := h.eq untied
    obtain ⟨-, htime'⟩ := h'.eq (by rw [handler]; exact untied)
    rw [handler] at htime'
    exact ⟨htime'.trans htime.symm, htime.trans (CallEnd.within_snd _ _ _)⟩

/-- A handler that answers after 30 milliseconds. -/
def slow : Handler where
  id := ⟨1⟩
  name := "slow"
  types := TypeSet.ofList []
  call _ _ _ := .started (.sleep 30 (.finish (.value (.object [("default", .bool true)]))))

/-- A note without content. -/
def note : Asset where
  url := ⟨"file", some {}, .segments ["note"], none, none⟩
  bytes := []
  media := "text/plain"
  encoding := .blob
  fingerprint := ""
  nativeAvailable := false

theorem agree_slow :
    Agree 100 (.inline slow) (.registry 0 slow ["text"]) note ⟨"file:///note", ⟨1⟩, "text"⟩ 0
      (fun _ => false) :=
  agree_of_untied rfl rfl (by decide)

end Invoke

end TypedImport
