import TypedImport.Handler.Invocation

/-!
# What a call comes to

An activity ends in one outcome, whatever it waits for meanwhile and however its turns fall. So a call
that is under way has its outcome before it, and the caller is given that outcome or gives up for the
time (`Work.poll_end`); nothing else can come of a call.
-/

namespace TypedImport

variable {now timeout : Nat} {opened : String → Bool}

namespace Running

/-- The outcome of an activity that is under way or over. -/
def outcomeOf : Running ⊕ Outcome → Outcome
  | .inl running => running.next.outcome
  | .inr o => o

@[simp] theorem outcomeOf_advance (a : Activity) : outcomeOf (advance now opened a) = a.outcome := by
  induction a with
  | finish o => rfl
  | sleep ms next ih =>
    unfold advance
    split
    · exact ih
    · rfl
  | gate name next ih =>
    unfold advance
    split
    · exact ih
    · rfl

theorem outcomeOf_poll (now : Nat) (opened : String → Bool) (r : Running) :
    outcomeOf (r.poll now opened) = r.next.outcome := by
  unfold poll
  split
  · exact outcomeOf_advance r.next
  · rfl

end Running

namespace Work

/-- **The outcome that a call under way has before it.** -/
def outcome : Work → Outcome
  | .inPlace running _ => running.next.outcome
  | .spawned task _ => Running.outcomeOf task

@[simp] theorem outcome_start (origin : Origin) (a : Activity) :
    (start origin a now timeout).outcome = a.outcome := by
  cases origin <;> rfl

@[simp] theorem outcome_pollTask (w : Work) : (w.pollTask now opened).outcome = w.outcome := by
  cases w with
  | inPlace running d => rfl
  | spawned task d =>
    cases task with
    | inl running => exact Running.outcomeOf_poll now opened running
    | inr o => rfl

theorem orTimeout_inl {w w' : Work} (h : orTimeout now w = .inl w') : w' = w := by
  unfold orTimeout at h
  split at h
  · cases h
  · exact (Sum.inl.inj h).symm

theorem orTimeout_inr {w : Work} {e : CallEnd} (h : orTimeout now w = .inr e) : e = .timedOut := by
  unfold orTimeout at h
  split at h
  · exact (Sum.inr.inj h).symm
  · cases h

theorem lt_of_orTimeout_inl {w w' : Work} (h : orTimeout now w = .inl w') : now < w.deadline := by
  unfold orTimeout at h
  split at h
  next => cases h
  next hnot => exact Nat.lt_of_not_le hnot

theorem le_of_orTimeout_inr {w : Work} {e : CallEnd} (h : orTimeout now w = .inr e) :
    w.deadline ≤ now := by
  unfold orTimeout at h
  split at h
  next hle => exact hle
  next => cases h

theorem poll_inl {w w' : Work} (h : w.poll now opened = .inl w') : w'.outcome = w.outcome := by
  cases w with
  | inPlace running d =>
    have hkept := Running.outcomeOf_poll now opened running
    cases hp : running.poll now opened with
    | inl running' =>
      simp only [poll, hp] at h
      rw [hp] at hkept
      rw [orTimeout_inl h]
      exact hkept
    | inr o => simp [poll, hp] at h
  | spawned task d =>
    cases task with
    | inl running => rw [orTimeout_inl h]
    | inr o => cases h

/-- **A caller is given the outcome of the call or gives up.** -/
theorem poll_end {w : Work} {e : CallEnd} (h : w.poll now opened = .inr e) :
    e = .outcome w.outcome ∨ e = .timedOut := by
  cases w with
  | inPlace running d =>
    have hkept := Running.outcomeOf_poll now opened running
    cases hp : running.poll now opened with
    | inl running' =>
      simp only [poll, hp] at h
      exact .inr (orTimeout_inr h)
    | inr o =>
      simp only [poll, hp] at h
      rw [hp] at hkept
      cases h
      exact .inl (congrArg CallEnd.outcome hkept)
  | spawned task d =>
    cases task with
    | inl running => exact .inr (orTimeout_inr h)
    | inr o =>
      cases h
      exact .inl rfl

end Work

namespace Invoke

/-- **The end of a call is a record or an error of its key**: a record if the handler gave a value that is
exports, and an error that names the key and the handler in every other case. -/
theorem record_cases (timeout : UInt64) (d : Descriptor) (asset : Asset) (key : CacheKey) (e : CallEnd) :
    (∃ v fields, e = .outcome (.value v) ∧ v.exports? = .ok fields ∧
        record timeout d asset key e = .ok ⟨fields, d.origin, key, asset.fingerprint⟩) ∨
      ∃ fault, record timeout d asset key e = .error (error d key fault) := by
  unfold record
  cases hx : exports timeout e with
  | error fault => exact .inr ⟨fault, rfl⟩
  | ok fields =>
    refine .inl ?_
    unfold exports at hx
    split at hx
    next v =>
      split at hx
      next fields' hv =>
        cases hx
        exact ⟨v, fields, rfl, hv, rfl⟩
      next => cases hx
    next => cases hx
    next => cases hx
    next => cases hx

end Invoke

end TypedImport
