import Mathlib.Data.List.Induction
import TypedImport.Handler.Resolving
import TypedImport.Proofs.Cache.History
import TypedImport.Proofs.Handler.Waiting

/-!
# Attempts at one module agree

Several attempts may be between the look at what is kept for a path and the end of making its module, and
each may come with a module of its own, or with none. What is kept is what the first good one gave, and all
the others are handed that (`agreed_run`).

**What an event does** is said once, by `Step`: an attempt looks, misses, asks, fails or comes with a good
module, and everything else leaves the memo, the questions and the attempts under way alone. An attempt
asks only if it has missed, and it misses only while nothing is kept; so what is kept is never asked for
by an attempt that looks later.

**Alone.** An attempt that nothing comes between, given the module that the resolver's table has for its
path, comes to what `Resolver.resolve` says and leaves the resolver as that does (`run_alone`).
-/

namespace TypedImport

namespace Resolver

/-! ## What leaves the memo alone -/

@[simp] theorem memo_nativeChoice (r : Resolver) (type media : String) :
    (r.nativeChoice type media).2.memo = r.memo := by
  unfold nativeChoice
  dsimp only
  split <;> rfl

@[simp] theorem memo_choice (r : Resolver) (type media : String) :
    (r.choice type media).2.memo = r.memo := by
  have native := memo_nativeChoice r type media
  unfold choice
  split
  next => rfl
  next =>
    split
    next => rfl
    next => exact native
  next =>
    split
    next h => rwa [h] at native
    next h => rwa [h] at native

@[simp] theorem memo_missReason (r : Resolver) (type : String) : (r.missReason type).2.memo = r.memo := by
  unfold missReason
  split <;> rfl

theorem memo_resolveDefault (r : Resolver) (url type media : String) :
    (r.resolveDefault url type media).2.memo = r.memo := by
  have chosen := memo_choice r type media
  unfold resolveDefault
  split
  next h => rwa [h] at chosen
  next r' h =>
    rw [h] at chosen
    exact (memo_missReason r' type).trans chosen

/-- **Only a module is kept**: an attempt that names none leaves the memo alone. -/
theorem memo_candidate {reference : AssertedHandler} (h : ∀ path, reference ≠ .module path) (r : Resolver)
    (url type media : String) : (r.candidate reference url type media).2.memo = r.memo := by
  cases reference with
  | inline handler => rfl
  | module path => exact absurd rfl (h path)
  | absent => exact memo_resolveDefault r url type media

theorem memo_define (r : Resolver) (types : List String) (handler : Handler) :
    (r.define types handler).2.memo = r.memo := by
  unfold define
  split <;> rfl

end Resolver

namespace Resolving

variable {s s' : Resolving} {e : Event} {events : List Event} {i j : Nat} {a b : Attempt} {path : String}
  {d : Descriptor} {stage : Stage}

theorem run_concat (s : Resolving) (events : List Event) (e : Event) :
    s.run (events ++ [e]) = (s.run events).after e := by
  simp only [run, List.foldl_append, List.foldl_cons, List.foldl_nil]

theorem run_append (s : Resolving) (events later : List Event) :
    s.run (events ++ later) = (s.run events).run later :=
  List.foldl_append

/-! ## What an event does -/

/-- **How an event moves an attempt on**: the stage that it comes to, and the memo and the questions after. -/
inductive Move (s : Resolving) (i : Nat) (a : Attempt) :
    Event → Stage → ModuleMemo → List (Nat × String) → Prop
  /-- It finds what is kept for its path. -/
  | finds {path : String} {d : Descriptor} (begun : a.stage = .begun) (names : a.reference = .module path)
    (kept : s.resolver.memo.find? path = some d) :
    Move s i a (.turn i) (.found (.ok d)) s.resolver.memo s.asked
  /-- It finds nothing kept for its path. -/
  | misses {path : String} (begun : a.stage = .begun) (names : a.reference = .module path)
    (missing : s.resolver.memo.find? path = none) : Move s i a (.turn i) .missed s.resolver.memo s.asked
  /-- It has the module of its path made. -/
  | asks {path : String} (missed : a.stage = .missed) (names : a.reference = .module path) :
    Move s i a (.turn i) .making s.resolver.memo ((i, path) :: s.asked)
  /-- It names no module and ends. -/
  | chooses {candidate : Except ImportError Descriptor} (begun : a.stage = .begun)
    (names : ∀ path, a.reference ≠ .module path) :
    Move s i a (.turn i) (.found candidate) s.resolver.memo s.asked
  /-- No good module has come. -/
  | fails {path : String} {result : Except Failure HandlerModule} {error : ImportError}
    (making : a.stage = .making) (names : a.reference = .module path)
    (bad : ∀ m, result = .ok m → ∃ fault, m.verify = .error fault) :
    Move s i a (.settle i result) (.found (.error error)) s.resolver.memo s.asked
  /-- A good module has come. -/
  | comes {path : String} {m : HandlerModule} {handler : Handler} {types : TypeSet}
    (making : a.stage = .making) (names : a.reference = .module path)
    (good : m.verify = .ok (handler, types)) :
    Move s i a (.settle i (.ok m)) (.found (.ok (s.resolver.memo.keep path handler types).1))
      (s.resolver.memo.keep path handler types).2 s.asked
  | drops : Move s i a (.drop i) .dropped s.resolver.memo s.asked

/-- **What an event does**: it moves one attempt on, or leaves all of them, the memo and the questions alone;
an attempt may come in then. -/
inductive Step (s : Resolving) (e : Event) (s' : Resolving) : Prop
  | moved {i : Nat} {a : Attempt} {stage : Stage} {memo : ModuleMemo} {asked : List (Nat × String)}
    (here : s.attempts[i]? = some a) (move : Move s i a e stage memo asked)
    (memo_eq : s'.resolver.memo = memo) (asked_eq : s'.asked = asked)
    (attempts : s'.attempts = s.attempts.set i { a with stage := stage })
  | other (memo : s'.resolver.memo = s.resolver.memo) (asked : s'.asked = s.asked)
    (later : ∀ (j : Nat) (b : Attempt), s.attempts[j]? = some b → s'.attempts[j]? = some b)
    (earlier : ∀ (j : Nat) (b : Attempt), s'.attempts[j]? = some b →
      s.attempts[j]? = some b ∨ b.stage = .begun)

theorem Step.idle (s : Resolving) (e : Event) : Step s e s :=
  .other rfl rfl (fun _ _ h => h) fun _ _ h => .inl h

theorem step_turn (hi : s.attempts[i]? = some a) : Step s (.turn i) (s.turn i a) := by
  unfold turn
  split
  next path hstage href =>
    split
    next d hd => exact .moved hi (.finds hstage href hd) rfl rfl rfl
    next hnone => exact .moved hi (.misses hstage href hnone) rfl rfl rfl
  next hstage hnot =>
    have names : ∀ path, a.reference ≠ .module path := fun path h => hnot path h
    have memo := Resolver.memo_candidate names s.resolver a.url a.type a.media
    rcases hc : s.resolver.candidate a.reference a.url a.type a.media with ⟨candidate, resolver⟩
    rw [hc] at memo
    exact .moved hi (.chooses hstage names) memo rfl rfl
  next path hstage href => exact .moved hi (.asks hstage href) rfl rfl rfl
  next => exact .idle s _

theorem step_settle (hi : s.attempts[i]? = some a) (result : Except Failure HandlerModule) :
    Step s (.settle i result) (s.settle i a result) := by
  unfold settle
  split
  next path hstage href =>
    cases result with
    | error failure => exact .moved hi (.fails hstage href fun m h => by cases h) rfl rfl rfl
    | ok m =>
      cases hv : m.verify with
      | error fault =>
        simp only [Resolver.settleModule, ModuleMemo.settle, hv]
        refine .moved hi (.fails hstage href fun m' h => ?_) rfl rfl rfl
        cases h
        exact ⟨fault, hv⟩
      | ok verified =>
        obtain ⟨handler, types⟩ := verified
        simp only [Resolver.settleModule, ModuleMemo.settle, hv]
        exact .moved hi (.comes hstage href hv) rfl rfl rfl
  next => exact .idle s _

theorem step_drop (hi : s.attempts[i]? = some a) : Step s (.drop i) (s.drop i a) := by
  unfold drop
  split
  next => exact .idle s _
  next => exact .moved hi .drops rfl rfl rfl

theorem step_after (s : Resolving) (e : Event) : Step s e (s.after e) := by
  cases e with
  | enter reference url type media =>
    refine .other rfl rfl (fun j b h => ?_) fun j b h => ?_
    · exact (List.getElem?_append_left (List.getElem?_eq_some_iff.mp h).1).trans h
    · rcases Flights.getElem?_append_singleton h with hold | ⟨-, rfl⟩
      · exact .inl hold
      · exact .inr rfl
  | turn i =>
    cases hi : s.attempts[i]? with
    | none => simpa [after, hi] using Step.idle s (.turn i)
    | some a => simpa [after, hi] using step_turn hi
  | settle i result =>
    cases hi : s.attempts[i]? with
    | none => simpa [after, hi] using Step.idle s (.settle i result)
    | some a => simpa [after, hi] using step_settle hi result
  | drop i =>
    cases hi : s.attempts[i]? with
    | none => simpa [after, hi] using Step.idle s (.drop i)
    | some a => simpa [after, hi] using step_drop hi
  | define types handler =>
    exact .other (Resolver.memo_define ..) rfl (fun _ _ h => h) fun _ _ h => .inl h
  | changeHost host => exact .other rfl rfl (fun _ _ h => h) fun _ _ h => .inl h

/-- The attempts after one of them was moved on. -/
theorem getElem?_of_moved (here : s.attempts[i]? = some a)
    (attempts : s'.attempts = s.attempts.set i { a with stage := stage }) (j : Nat) :
    s'.attempts[j]? = if j = i then some { a with stage := stage } else s.attempts[j]? := by
  have hlt : i < s.attempts.length := (List.getElem?_eq_some_iff.mp here).1
  rw [attempts, List.getElem?_set]
  by_cases h : j = i
  · simp [h, hlt]
  · simp [h, Ne.symm h]

/-! ## What is kept -/

/-- **What is kept for a path stays.** -/
theorem Step.find?_of_some (h : Step s e s') (hd : s.resolver.memo.find? path = some d) :
    s'.resolver.memo.find? path = some d := by
  cases h with
  | other memo => rwa [memo]
  | moved here move memo_eq asked_eq attempts =>
    rw [memo_eq]
    cases move with
    | comes making names good => exact Resolver.find?_keep_of_some hd _ _
    | _ => exact hd

/-- **An attempt comes with a good module for a path for which nothing is kept**, and this is what it gives. -/
def Inserts (path : String) (d : Descriptor) (s : Resolving) (e : Event) : Prop :=
  ∃ i a m handler types, e = .settle i (.ok m) ∧ s.attempts[i]? = some a ∧ a.stage = .making ∧
    a.reference = .module path ∧ m.verify = .ok (handler, types) ∧ s.resolver.memo.find? path = none ∧
    d = .external s.resolver.memo.length path handler types

theorem Step.kept_or_inserts (h : Step s e s') (hd : s'.resolver.memo.find? path = some d) :
    s.resolver.memo.find? path = some d ∨ Inserts path d s e := by
  cases h with
  | other memo => exact .inl (memo ▸ hd)
  | @moved i a stage memo asked here move memo_eq asked_eq attempts =>
    rw [memo_eq] at hd
    cases move with
    | @comes path' m handler types making names good =>
      rw [Resolver.find?_keep] at hd
      split at hd
      next hpath =>
        subst hpath
        cases hold : s.resolver.memo.find? path with
        | some d' =>
          rw [Resolver.keep_of_find? hold] at hd
          exact .inl hd
        | none =>
          refine .inr ⟨i, a, m, handler, types, rfl, here, making, names, good, hold, ?_⟩
          unfold ModuleMemo.keep at hd
          rw [hold] at hd
          exact (Option.some.inj hd).symm
      next => exact .inl hd
    | _ => exact .inl hd

/-- **An attempt that fails leaves the memo as it was.** -/
theorem Step.memo_of_error (h : Step s e s') {error : ImportError} (hi : s.attempts[i]? = some a)
    (hnot : a.stage ≠ .found (.error error))
    (hi' : s'.attempts[i]? = some { a with stage := .found (.error error) }) :
    s'.resolver.memo = s.resolver.memo := by
  cases h with
  | other memo => exact memo
  | moved here move memo_eq asked_eq attempts =>
    rw [getElem?_of_moved here attempts] at hi'
    rw [memo_eq]
    cases move with
    | comes making names good =>
      -- the one attempt that is moved on has found a handler
      exfalso
      split at hi'
      next =>
        have hstage := congrArg Attempt.stage (Option.some.inj hi')
        cases hstage
      next =>
        rw [hi] at hi'
        exact hnot (congrArg Attempt.stage (Option.some.inj hi'))
    | _ => rfl

/-! ## The attempts -/

/-- What an attempt has found for the path of a module is what is kept for it. -/
def Handed (s : Resolving) : Prop :=
  ∀ (i : Nat) (a : Attempt) path d, s.attempts[i]? = some a → a.reference = .module path →
    a.stage = .found (.ok d) → s.resolver.memo.find? path = some d

theorem Handed.step (handed : s.Handed) (h : Step s e s') : s'.Handed := by
  have stays : ∀ path d, s.resolver.memo.find? path = some d → s'.resolver.memo.find? path = some d :=
    fun path d => h.find?_of_some
  intro j b path d hj href hstage
  cases h with
  | other memo asked later earlier =>
    rcases earlier j b hj with hold | hbegun
    · exact stays path d (handed j b path d hold href hstage)
    · rw [hbegun] at hstage
      cases hstage
  | moved here move memo_eq asked_eq attempts =>
    rw [getElem?_of_moved here attempts] at hj
    split at hj
    next =>
      cases hj
      rw [memo_eq]
      cases move with
      | finds begun names kept =>
        cases names.symm.trans href
        cases hstage
        exact kept
      | comes making names good =>
        cases names.symm.trans href
        cases hstage
        rw [Resolver.find?_keep, if_pos rfl]
      | chooses begun names => exact absurd href (names path)
      | _ => cases hstage
    next => exact stays path d (handed j b path d hj href hstage)

/-- **An attempt has its module made once**, and not before it has missed what is kept. -/
structure AskedOnce (s : Resolving) : Prop where
  nodup : s.asked.Nodup
  past : ∀ i path, (i, path) ∈ s.asked →
    ∃ a, s.attempts[i]? = some a ∧ a.reference = .module path ∧ a.stage ≠ .begun ∧ a.stage ≠ .missed

theorem AskedOnce.step (once : s.AskedOnce) (h : Step s e s') : s'.AskedOnce := by
  cases h with
  | other memo asked later earlier =>
    refine ⟨asked ▸ once.nodup, fun i path hi => ?_⟩
    obtain ⟨a, ha, hpast⟩ := once.past i path (asked ▸ hi)
    exact ⟨a, later i a ha, hpast⟩
  | @moved i a stage memo asked here move memo_eq asked_eq attempts =>
    -- a move leaves no attempt that has asked where it has not asked yet
    have keeps : stage ≠ .begun → stage ≠ .missed ∨ a.stage = .begun → ∀ j path, (j, path) ∈ s.asked →
        ∃ b, s'.attempts[j]? = some b ∧ b.reference = .module path ∧ b.stage ≠ .begun ∧
          b.stage ≠ .missed := by
      intro hbegun hmissed j path hj
      obtain ⟨b, hb, hpast⟩ := once.past j path hj
      rw [getElem?_of_moved here attempts]
      by_cases hji : j = i
      · subst hji
        cases hb.symm.trans here
        exact ⟨_, if_pos rfl, hpast.1, hbegun, hmissed.resolve_right hpast.2.1⟩
      · exact ⟨b, (if_neg hji).trans hb, hpast⟩
    cases move with
    | @asks path missed names =>
      have hnew : (i, path) ∉ s.asked := by
        intro hi
        obtain ⟨b, hb, -, -, hnot⟩ := once.past i path hi
        cases hb.symm.trans here
        exact hnot missed
      refine ⟨asked_eq ▸ List.nodup_cons.mpr ⟨hnew, once.nodup⟩, fun j other hj => ?_⟩
      rw [asked_eq] at hj
      rcases List.mem_cons.mp hj with heq | hold
      · cases heq
        refine ⟨_, (getElem?_of_moved here attempts i).trans (if_pos rfl), names, ?_, ?_⟩ <;> nofun
      · exact keeps nofun (.inl nofun) j other hold
    | misses begun names missing =>
      exact ⟨asked_eq ▸ once.nodup, fun j path hj => keeps nofun (.inr begun) j path (asked_eq ▸ hj)⟩
    | _ =>
      exact ⟨asked_eq ▸ once.nodup, fun j path hj => keeps nofun (.inl nofun) j path (asked_eq ▸ hj)⟩

/-- An attempt has looked for what is kept for a path, in vain, and has not had its module made yet. -/
def Missed (s : Resolving) (i : Nat) (path : String) : Prop :=
  ∃ a, s.attempts[i]? = some a ∧ a.reference = .module path ∧ a.stage = .missed

/-- **Nobody misses what is kept.** -/
theorem Step.missed (h : Step s e s') (hd : s.resolver.memo.find? path = some d)
    (hm : s'.Missed j path) : s.Missed j path := by
  obtain ⟨b, hj, href, hstage⟩ := hm
  cases h with
  | other memo asked later earlier =>
    rcases earlier j b hj with hold | hbegun
    · exact ⟨b, hold, href, hstage⟩
    · rw [hbegun] at hstage
      cases hstage
  | moved here move memo_eq asked_eq attempts =>
    rw [getElem?_of_moved here attempts] at hj
    split at hj
    next =>
      cases hj
      cases move with
      | misses begun names missing =>
        cases names.symm.trans href
        rw [missing] at hd
        cases hd
      | _ => cases hstage
    next => exact ⟨b, hj, href, hstage⟩

/-- **Who has a module made has missed it before.** -/
theorem Step.asked (h : Step s e s') (hj : (j, path) ∈ s'.asked) :
    (j, path) ∈ s.asked ∨ s.Missed j path := by
  cases h with
  | other memo asked => exact .inl (asked ▸ hj)
  | @moved i a stage memo asked here move memo_eq asked_eq attempts =>
    rw [asked_eq] at hj
    cases move with
    | asks missed names =>
      rcases List.mem_cons.mp hj with heq | hold
      · cases heq
        exact .inr ⟨a, here, names, missed⟩
      · exact .inl hold
    | _ => exact .inl hj

/-- The attempt that an event is about, if it is about one. -/
def Event.number? : Event → Option Nat
  | .turn number | .settle number _ | .drop number => some number
  | _ => none

theorem Step.getElem?_of_ne (h : Step s e s') (hj : s.attempts[j]? = some b) (hne : e.number? ≠ some j) :
    s'.attempts[j]? = some b := by
  cases h with
  | other memo asked later => exact later j b hj
  | moved here move memo_eq asked_eq attempts =>
    rw [getElem?_of_moved here attempts, if_neg, hj]
    rintro rfl
    cases move <;> exact hne rfl

/-! ## How an attempt at a module goes on -/

theorem after_turn_of_kept (hi : s.attempts[i]? = some a) (begun : a.stage = .begun)
    (names : a.reference = .module path) (kept : s.resolver.memo.find? path = some d) :
    s.after (.turn i) = s.put i a (.found (.ok d)) := by
  simp [after, hi, turn, begun, names, kept]

theorem after_turn_of_missing (hi : s.attempts[i]? = some a) (begun : a.stage = .begun)
    (names : a.reference = .module path) (missing : s.resolver.memo.find? path = none) :
    s.after (.turn i) = s.put i a .missed := by
  simp [after, hi, turn, begun, names, missing]

theorem after_turn_of_missed (hi : s.attempts[i]? = some a) (missed : a.stage = .missed)
    (names : a.reference = .module path) :
    s.after (.turn i) = { s.put i a .making with asked := (i, path) :: s.asked } := by
  simp [after, hi, turn, missed, names]

/-- What comes of a module is settled with what is kept then. -/
theorem after_settle_of_making (hi : s.attempts[i]? = some a) (making : a.stage = .making)
    (names : a.reference = .module path) (result : Except Failure HandlerModule) :
    let settled := s.resolver.settleModule path a.url a.type result
    s.after (.settle i result) = { s with resolver := settled.2 }.put i a (.found settled.1) := by
  simp [after, hi, settle, making, names]

/-- An attempt that names no module ends in its first turn. -/
theorem after_turn_of_plain (hi : s.attempts[i]? = some a) (begun : a.stage = .begun)
    (names : ∀ path, a.reference ≠ .module path) :
    let candidate := s.resolver.candidate a.reference a.url a.type a.media
    s.after (.turn i) = { s with resolver := candidate.2 }.put i a (.found candidate.1) := by
  cases h : a.reference with
  | module path => exact absurd h (names path)
  | _ => simp [after, hi, turn, begun, h]

/-- What has been found is not looked for again. -/
theorem run_of_found {candidate : Except ImportError Descriptor} (hi : s.attempts[i]? = some a)
    (found : a.stage = .found candidate) (result : Except Failure HandlerModule) :
    s.run [.turn i, .settle i result] = s := by
  simp [run, after, hi, turn, settle, found]

theorem getElem?_put_self (hi : s.attempts[i]? = some a) (stage : Stage) :
    (s.put i a stage).attempts[i]? = some { a with stage := stage } := by
  have moved := getElem?_of_moved hi (show (s.put i a stage).attempts = _ from rfl) i
  rw [moved, if_pos rfl]

/-- **An attempt left to itself comes to what resolving the handler gives**, if the module that comes is the
one that the resolver has for the path. -/
theorem run_alone (hi : s.attempts[i]? = some a) (begun : a.stage = .begun)
    {result : Except Failure HandlerModule}
    (brings : ∀ path, a.reference = .module path → result = (s.resolver.modules.instantiate path).1) :
    let s' := s.run [.turn i, .turn i, .settle i result]
    let resolved := s.resolver.resolve a.reference a.url a.type a.media
    s'.attempts[i]?.bind Attempt.result? = some resolved.1 ∧
      { s'.resolver with modules := resolved.2.modules } = resolved.2 := by
  intro s' resolved
  let candidate := s.resolver.candidate a.reference a.url a.type a.media
  suffices h : s'.attempts[i]? = some { a with stage := .found candidate.1 } ∧
      { s'.resolver with modules := candidate.2.modules } = candidate.2 by
    obtain ⟨hstage, hresolver⟩ := h
    simp only [resolved, Resolver.resolve_fst, Resolver.resolve_snd]
    rw [hstage]
    exact ⟨rfl, hresolver⟩
  -- an attempt that has found a handler in its first turn has nothing to do in the others
  have early : ∀ resolver,
      s.after (.turn i) = { s with resolver := resolver }.put i a (.found candidate.1) →
      s' = { s with resolver := resolver }.put i a (.found candidate.1) := by
    intro resolver hfirst
    show (s.after (.turn i)).run [.turn i, .settle i result] = _
    rw [hfirst]
    exact run_of_found (getElem?_put_self (s := { s with resolver := resolver }) hi _) rfl result
  obtain ⟨path, names⟩ | names :
      (∃ path, a.reference = .module path) ∨ ∀ path, a.reference ≠ .module path := by
    cases a.reference with
    | module path => exact .inl ⟨path, rfl⟩
    | _ => exact .inr nofun
  · cases hkept : s.resolver.memo.find? path with
    | some d =>
      have hcandidate : candidate = (.ok d, s.resolver) := by
        simp [candidate, names, Resolver.candidate, Resolver.resolveModule, hkept]
      rw [early s.resolver (by rw [after_turn_of_kept hi begun names hkept, hcandidate]), hcandidate]
      exact ⟨getElem?_put_self hi _, rfl⟩
    | none =>
      have hcandidate : candidate =
          { s.resolver with modules := (s.resolver.modules.instantiate path).2 }.settleModule path
            a.url a.type result := by
        simp [candidate, names, Resolver.candidate, Resolver.resolveModule, hkept, brings path names]
      have hmissed := getElem?_put_self hi .missed
      let making : Resolving := { s.put i a .making with asked := (i, path) :: s.asked }
      have hmaking : making.attempts[i]? = some { a with stage := .making } := getElem?_put_self hi .making
      have hs' : s' = making.after (.settle i result) := by
        show ((s.after (.turn i)).after (.turn i)).after (.settle i result) = _
        rw [after_turn_of_missing hi begun names hkept, after_turn_of_missed hmissed rfl names]
        simp [put, making]
      rw [hs', after_settle_of_making hmaking rfl names, hcandidate]
      exact ⟨getElem?_put_self (s := { making with resolver := _ }) hmaking _, rfl⟩
  · rw [early candidate.2 (after_turn_of_plain hi begun names)]
    exact ⟨getElem?_put_self (s := { s with resolver := candidate.2 }) hi _, rfl⟩

/-! ## Runs -/

theorem find?_run_of_some (hd : s.resolver.memo.find? path = some d) (later : List Event) :
    (s.run later).resolver.memo.find? path = some d := by
  induction later using List.reverseRecOn with
  | nil => exact hd
  | append_singleton later e ih =>
    rw [run_concat]
    exact (step_after _ e).find?_of_some ih

theorem missed_of_run (hd : s.resolver.memo.find? path = some d) {later : List Event}
    (hm : (s.run later).Missed j path) : s.Missed j path := by
  induction later using List.reverseRecOn with
  | nil => exact hm
  | append_singleton later e ih =>
    rw [run_concat] at hm
    exact ih ((step_after _ e).missed (find?_run_of_some hd later) hm)

/-- **What is kept is not made again**, but for attempts that had missed it. -/
theorem asked_of_run (hd : s.resolver.memo.find? path = some d) {later : List Event}
    (hj : (j, path) ∈ (s.run later).asked) : (j, path) ∈ s.asked ∨ s.Missed j path := by
  induction later using List.reverseRecOn with
  | nil => exact .inl hj
  | append_singleton later e ih =>
    rw [run_concat] at hj
    rcases (step_after _ e).asked hj with hold | hm
    · exact ih hold
    · exact .inr (missed_of_run hd hm)

theorem getElem?_run_of_ne (hj : s.attempts[j]? = some b) {later : List Event}
    (hne : ∀ e ∈ later, e.number? ≠ some j) : (s.run later).attempts[j]? = some b := by
  induction later using List.reverseRecOn with
  | nil => exact hj
  | append_singleton later e ih =>
    rw [run_concat]
    have hold := ih fun e' he' => hne e' (List.mem_append_left _ he')
    exact (step_after _ e).getElem?_of_ne hold (hne e (List.mem_append_right _ (List.mem_singleton_self e)))

end Resolving

open Resolving

/-- **A resolver that serves attempts**, after a series of events. -/
def Resolver.serving (r : Resolver) (events : List Event) : Resolving :=
  ({ resolver := r } : Resolving).run events

namespace Resolving

variable {r : Resolver} {events : List Event} {i : Nat} {a : Attempt} {path : String} {d : Descriptor}

theorem serving_concat (r : Resolver) (events : List Event) (e : Event) :
    r.serving (events ++ [e]) = (r.serving events).after e :=
  run_concat ..

theorem serving_append (r : Resolver) (events later : List Event) :
    r.serving (events ++ later) = (r.serving events).run later :=
  run_append ..

theorem handed_serving (r : Resolver) (events : List Event) : (r.serving events).Handed := by
  induction events using List.reverseRecOn with
  | nil =>
    intro i a path d hi
    cases hi
  | append_singleton events e ih =>
    rw [serving_concat]
    exact ih.step (step_after _ e)

theorem askedOnce_serving (r : Resolver) (events : List Event) : (r.serving events).AskedOnce := by
  induction events using List.reverseRecOn with
  | nil => exact ⟨List.nodup_nil, fun i path hi => nomatch hi⟩
  | append_singleton events e ih =>
    rw [serving_concat]
    exact ih.step (step_after _ e)

/-- What is kept was kept at first, or a good module has put it there. -/
theorem inserted_of_kept (hd : (r.serving events).resolver.memo.find? path = some d) :
    r.memo.find? path = some d ∨
      Happened (fun before e => Inserts path d (r.serving before) e) events := by
  induction events using List.reverseRecOn with
  | nil => exact .inl hd
  | append_singleton events e ih =>
    rw [serving_concat] at hd
    rw [happened_concat]
    rcases (step_after _ e).kept_or_inserts hd with hold | hnew
    · exact (ih hold).imp id .inl
    · exact .inr (.inr hnew)

/-- **Attempts at one module agree.** -/
structure Agreed (r : Resolver) (events : List Event) : Prop where
  /-- Attempts that have found a handler for one path were handed the same descriptor. -/
  same : ∀ (i j : Nat) (a b : Attempt) path d d', (r.serving events).attempts[i]? = some a →
    (r.serving events).attempts[j]? = some b → a.reference = .module path → b.reference = .module path →
    a.stage = .found (.ok d) → b.stage = .found (.ok d') → d' = d
  /-- It is what is kept for the path. -/
  handed : (r.serving events).Handed
  /-- What is kept for a path was there from the start, or it was made of the first good module that came. -/
  first : ∀ path d, (r.serving events).resolver.memo.find? path = some d →
    r.memo.find? path = some d ∨ Happened (fun before e => Inserts path d (r.serving before) e) events
  /-- It never changes. -/
  stays : ∀ later path d, (r.serving events).resolver.memo.find? path = some d →
    (r.serving (events ++ later)).resolver.memo.find? path = some d
  /-- An attempt that comes to look then is handed it at once, -/
  finds : ∀ (i : Nat) (a : Attempt) path d, (r.serving events).attempts[i]? = some a → a.stage = .begun →
    a.reference = .module path → (r.serving events).resolver.memo.find? path = some d →
    r.serving (events ++ [.turn i]) = (r.serving events).put i a (.found (.ok d))
  /-- and the module is not made again, but for attempts that had looked before. -/
  notAgain : ∀ later i path d, (r.serving events).resolver.memo.find? path = some d →
    (i, path) ∈ (r.serving (events ++ later)).asked →
    (i, path) ∈ (r.serving events).asked ∨ (r.serving events).Missed i path
  /-- An attempt that fails leaves the memo as it was. -/
  failing : ∀ (e : Event) (i : Nat) (a : Attempt) error, (r.serving events).attempts[i]? = some a →
    a.stage ≠ .found (.error error) →
    (r.serving (events ++ [e])).attempts[i]? = some { a with stage := .found (.error error) } →
    (r.serving (events ++ [e])).resolver.memo = (r.serving events).resolver.memo
  /-- While nothing is kept for its path, an attempt that looks has the module made in its next turn,
  whatever happens between the two. -/
  anew : ∀ (i : Nat) (a : Attempt) path later, (r.serving events).attempts[i]? = some a → a.stage = .begun →
    a.reference = .module path → (r.serving events).resolver.memo.find? path = none →
    (∀ e ∈ later, e.number? ≠ some i) →
    (r.serving (events ++ .turn i :: later ++ [.turn i])).asked =
      (i, path) :: (r.serving (events ++ .turn i :: later)).asked
  /-- No attempt has it made twice. -/
  once : (r.serving events).asked.Nodup
  /-- An attempt whose module comes and is good has found a handler. -/
  comes : ∀ (i : Nat) (a : Attempt) path m, (r.serving events).attempts[i]? = some a → a.stage = .making →
    a.reference = .module path → (∃ verified, m.verify = .ok verified) →
    ∃ d, (r.serving (events ++ [.settle i (.ok m)])).attempts[i]? = some { a with stage := .found (.ok d) }

/-- **However the steps of its attempts fall, a resolver keeps one descriptor for a path** and hands it to
all of them. -/
theorem agreed_run (r : Resolver) (events : List Event) : Agreed r events where
  same i j a b path d d' hi hj hrefa hrefb hstagea hstageb := by
    have handed := handed_serving r events
    exact Option.some.inj
      ((handed j b path d' hj hrefb hstageb).symm.trans (handed i a path d hi hrefa hstagea))
  handed := handed_serving r events
  first path d := inserted_of_kept
  stays later path d hd := by
    rw [serving_append]
    exact find?_run_of_some hd later
  finds i a path d hi begun names kept := by
    rw [serving_concat]
    exact after_turn_of_kept hi begun names kept
  notAgain later i path d hd hi := by
    rw [serving_append] at hi
    exact asked_of_run hd hi
  failing e i a error hi hnot hi' := by
    rw [serving_concat] at hi' ⊢
    exact (step_after _ e).memo_of_error hi hnot hi'
  anew i a path later hi begun names missing hne := by
    have hmissed : (r.serving (events ++ .turn i :: later)).attempts[i]? =
        some { a with stage := .missed } := by
      rw [List.append_cons, serving_append, serving_concat, after_turn_of_missing hi begun names missing]
      exact getElem?_run_of_ne (getElem?_put_self hi _) hne
    rw [serving_concat, after_turn_of_missed hmissed rfl names]
  once := (askedOnce_serving r events).nodup
  comes i a path m hi making names good := by
    obtain ⟨⟨handler, types⟩, hv⟩ := good
    have hsettled : ((r.serving events).resolver.settleModule path a.url a.type (.ok m)).1 =
        .ok ((r.serving events).resolver.memo.keep path handler types).1 := by
      simp only [Resolver.settleModule, ModuleMemo.settle, hv]
    rw [serving_concat, after_settle_of_making hi making names, hsettled]
    exact ⟨_, getElem?_put_self (s := { r.serving events with resolver := _ }) hi _⟩

end Resolving

end TypedImport
