import TypedImport.Proofs.Cache.History
import TypedImport.Proofs.Loader.Turns

/-!
# The computations of a loader

A loader drives its cache by the events of the cache alone, one at most in a turn, so what is known of
every run of a cache is known of the cache of every loader (`exists_cache_run`).

**Pairs.** The loader and its cache count the same computations. `Paired` says that the two sides of each
are of one key and content and end together, with what the handler gives: the loader ends no computation
in any other way.
-/

namespace TypedImport

namespace Computation

variable {comp : Computation} {result : Except ImportError Record}

/-- **What may come of a computation**: a record of the exports that some call of its handler gives for its
asset, or an error of its key and handler. -/
def Gives (comp : Computation) (result : Except ImportError Record) : Prop :=
  (∃ nth v fields, (comp.call nth).outcome = .value v ∧ v.exports? = .ok fields ∧
    result = .ok ⟨fields, comp.descriptor.origin, comp.key, comp.asset.fingerprint⟩) ∨
  ∃ fault, result = .error (Invoke.error comp.descriptor comp.key fault)

theorem Ends.gives (h : comp.Ends result)
    (leads : ∀ o, comp.Leads o → ∃ nth, (comp.call nth).outcome = o) : comp.Gives result := by
  cases h with
  | record lead shape =>
    obtain ⟨nth, hcall⟩ := leads _ lead
    exact .inl ⟨nth, _, _, hcall, shape, rfl⟩
  | fault fault => exact .inr ⟨fault, rfl⟩

/-- How far a computation is, on both sides. -/
inductive Stands (comp : Computation) (f : Flight) : Prop where
  | under (ending : f.ending = none) (stage : comp.stage ≠ .ended)
      (leads : ∀ o, comp.Leads o → ∃ nth, (comp.call nth).outcome = o)
  | ended {result : Except ImportError Record} (ending : f.ending = some (.ofResult result))
      (stage : comp.stage = .ended) (gives : comp.Gives result)

end Computation

namespace Loader

variable {l l' : Loader} {e : Event} {events : List Event} {n : Nat}

/-! ## The cache of a loader -/

/-- An event takes away what is kept for a key. -/
def Event.Covers : Event → CacheKey → Prop
  | .clear, _ => True
  | .invalidate url, key => key.url = url
  | _, _ => False

/-- **A computation of a run is fenced off**: after its start the cache was cleared, or its asset was
invalidated. -/
def Fenced (l : Loader) (events : List Event) (n : Nat) : Prop :=
  Happened (fun before e => ∃ f, (l.run before).flights.flights[n]? = some f ∧ e.Covers f.key) events

theorem run_append (l : Loader) (events later : List Event) :
    l.run (events ++ later) = (l.run events).run later :=
  List.foldl_append

theorem run_concat (l : Loader) (events : List Event) (e : Event) :
    l.run (events ++ [e]) = (l.run events).after e := by
  rw [run_append]
  rfl

theorem Turn.cache_event (h : Turn l e l') :
    l'.flights = l.flights ∨
      ∃ event, l'.flights = l.flights.after event ∧ ∀ key, event.Covers key → e.Covers key := by
  cases h with
  | idle _ flights => exact .inl flights
  | came _ flights => exact .inl flights
  | moved _ _ _ _ flights => exact .inl flights
  | @answered i _ _ d _ _ _ _ _ _ flights =>
    exact .inr ⟨.request d.key d.asset.fingerprint, flights, fun _ h => h.elim⟩
  | @attached i _ _ d _ _ _ _ _ _ _ flights =>
    exact .inr ⟨.request d.key d.asset.fingerprint, flights, fun _ h => h.elim⟩
  | @resumed _ _ _ _ ticket _ _ _ flights =>
    exact .inr ⟨.resume ticket, flights, fun _ h => h.elim⟩
  | @dropped _ _ _ ticket _ flights => exact .inr ⟨.drop ticket, flights, fun _ h => h.elim⟩
  | worked _ _ _ flights => exact .inl flights
  | @ended _ c _ result _ _ _ flights =>
    exact .inr ⟨.finish c (.ofResult result), flights, fun _ h => h.elim⟩
  | cleared => exact .inr ⟨.clear, rfl, fun _ h => h⟩
  | @invalidated url => exact .inr ⟨.invalidate url, rfl, fun _ h => h⟩

/-- **A loader in which nothing has happened yet.** -/
structure Fresh (l : Loader) : Prop where
  flights : l.flights = {}
  imports : l.imports = []
  computations : l.computations = []
  memo : l.resolver.memo = []

theorem fresh_build (config : Config) (base : Option Url) (registry : Registry) (native : NativeMemo)
    (modules : ModuleTable) (feed : Feed) :
    Fresh (build config base registry native modules feed) :=
  ⟨rfl, rfl, rfl, rfl⟩

/-- **The cache of a loader has gone through a run of its own**, in which no more is fenced off. -/
theorem exists_cache_run (hl : l.Fresh) (events : List Event) :
    ∃ history, (l.run events).flights = Flights.run {} history ∧
      ∀ n, Flights.Fenced history n → Fenced l events n := by
  induction events using List.reverseRecOn with
  | nil =>
    exact ⟨[], hl.flights, fun n h => (not_happened_nil h).elim⟩
  | append_singleton events e ih =>
    obtain ⟨history, hrun, hfen⟩ := ih
    rw [run_concat]
    rcases (turn_after (l.run events) e).cache_event with hsame | ⟨event, hevent, hcovers⟩
    · exact ⟨history, hsame.trans hrun, fun n h => (hfen n h).append [e]⟩
    · refine ⟨history ++ [event], ?_, fun n h => ?_⟩
      · rw [hevent, hrun, Flights.run_concat]
      · rcases happened_concat.1 h with hold | ⟨f, hf, hc⟩
        · exact (hfen n hold).append [e]
        · exact happened_concat.2 (.inr ⟨f, by rw [hrun, hf], hcovers _ hc⟩)

theorem sound_flights (hl : l.Fresh) (events : List Event) : (l.run events).flights.Sound := by
  obtain ⟨history, hrun, -⟩ := exists_cache_run hl events
  rw [hrun]
  exact Flights.sound_run history

/-! ## Pairs -/

/-- **The computations of a loader and those of its cache are the same**, one by one. -/
structure Paired (l : Loader) : Prop where
  length : l.computations.length = l.flights.flights.length
  key : ∀ (c : Nat) (comp : Computation) (f : Flight), l.computations[c]? = some comp →
    l.flights.flights[c]? = some f → f.key = comp.key ∧ f.fingerprint = comp.asset.fingerprint
  stands : ∀ (c : Nat) (comp : Computation) (f : Flight), l.computations[c]? = some comp →
    l.flights.flights[c]? = some f → comp.Stands f

theorem Paired.flight (h : l.Paired) {c : Nat} {comp : Computation}
    (hc : l.computations[c]? = some comp) : ∃ f, l.flights.flights[c]? = some f := by
  have hlt := (List.getElem?_eq_some_iff.1 hc).1
  exact ⟨_, List.getElem?_eq_getElem (h.length ▸ hlt)⟩

theorem Paired.computation (h : l.Paired) {c : Nat} {f : Flight}
    (hf : l.flights.flights[c]? = some f) : ∃ comp, l.computations[c]? = some comp := by
  have hlt := (List.getElem?_eq_some_iff.1 hf).1
  exact ⟨_, List.getElem?_eq_getElem (h.length ▸ hlt)⟩

theorem Paired.fresh (hl : l.Fresh) : l.Paired where
  length := by rw [hl.computations, hl.flights]; rfl
  key c comp f hc := by rw [hl.computations] at hc; cases hc
  stands c comp f hc := by rw [hl.computations] at hc; cases hc

theorem Paired.of_eq (h : l.Paired) (hf : l'.flights.flights = l.flights.flights)
    (hc : l'.computations = l.computations) : l'.Paired where
  length := by rw [hc, hf, h.length]
  key := by rw [hc, hf]; exact h.key
  stands := by rw [hc, hf]; exact h.stands

theorem Paired.started (h : l.Paired) {d : Demand}
    (hf : l'.flights.flights = l.flights.flights ++ [⟨d.key, d.asset.fingerprint, none⟩])
    (hc : l'.computations = l.computations ++ [d.computation]) : l'.Paired := by
  have either : ∀ (c : Nat) (comp : Computation) (f : Flight), l'.computations[c]? = some comp →
      l'.flights.flights[c]? = some f →
      l.computations[c]? = some comp ∧ l.flights.flights[c]? = some f ∨
        comp = d.computation ∧ f = ⟨d.key, d.asset.fingerprint, none⟩ := by
    intro c comp f hcomp hflight
    rw [hc] at hcomp
    rw [hf] at hflight
    by_cases hlt : c < l.computations.length
    · rw [List.getElem?_append_left hlt] at hcomp
      rw [List.getElem?_append_left (h.length ▸ hlt)] at hflight
      exact .inl ⟨hcomp, hflight⟩
    · rw [List.getElem?_append_right (Nat.le_of_not_lt hlt)] at hcomp
      rw [List.getElem?_append_right (h.length ▸ Nat.le_of_not_lt hlt)] at hflight
      exact .inr ⟨List.mem_singleton.1 (List.mem_of_getElem? hcomp),
        List.mem_singleton.1 (List.mem_of_getElem? hflight)⟩
  refine ⟨?_, fun c comp f hcomp hflight => ?_, fun c comp f hcomp hflight => ?_⟩
  · rw [hc, hf, List.length_append, List.length_append, h.length]
    rfl
  · rcases either c comp f hcomp hflight with ⟨hcomp, hflight⟩ | ⟨rfl, rfl⟩
    · exact h.key c comp f hcomp hflight
    · exact ⟨rfl, rfl⟩
  · rcases either c comp f hcomp hflight with ⟨hcomp, hflight⟩ | ⟨rfl, rfl⟩
    · exact h.stands c comp f hcomp hflight
    · exact .under rfl (by simp [Demand.computation]) fun o ho => ho

theorem Paired.modified (h : l.Paired) {c : Nat} {comp : Computation} {f : Flight}
    (hcomp : l.computations[c]? = some comp) (hflight : l.flights.flights[c]? = some f)
    {stage : Computation.Stage} {ending : Option Ending}
    (stands : ({ comp with stage := stage } : Computation).Stands { f with ending := ending })
    (hf : ∀ i, l'.flights.flights[i]? =
      if i = c then some { f with ending := ending } else l.flights.flights[i]?)
    (hlen : l'.flights.flights.length = l.flights.flights.length)
    (hc : l'.computations = l.computations.modify c fun comp => { comp with stage := stage }) :
    l'.Paired := by
  have either : ∀ (i : Nat) (comp' : Computation) (f' : Flight), l'.computations[i]? = some comp' →
      l'.flights.flights[i]? = some f' →
      l.computations[i]? = some comp' ∧ l.flights.flights[i]? = some f' ∨
        comp' = { comp with stage := stage } ∧ f' = { f with ending := ending } := by
    intro i comp' f' hcomp' hflight'
    rw [hc, Flights.getElem?_modify_of_some hcomp] at hcomp'
    rw [hf] at hflight'
    by_cases hi : i = c
    · rw [if_pos hi] at hflight' hcomp'
      exact .inr ⟨(Option.some.inj hcomp').symm, (Option.some.inj hflight').symm⟩
    · rw [if_neg hi] at hflight' hcomp'
      exact .inl ⟨hcomp', hflight'⟩
  refine ⟨?_, fun i comp' f' hcomp' hflight' => ?_, fun i comp' f' hcomp' hflight' => ?_⟩
  · rw [hc, List.length_modify, hlen, h.length]
  · rcases either i comp' f' hcomp' hflight' with ⟨hcomp', hflight'⟩ | ⟨rfl, rfl⟩
    · exact h.key i comp' f' hcomp' hflight'
    · exact h.key c comp f hcomp hflight
  · rcases either i comp' f' hcomp' hflight' with ⟨hcomp', hflight'⟩ | ⟨rfl, rfl⟩
    · exact h.stands i comp' f' hcomp' hflight'
    · exact stands

/-- **A turn keeps the two sides together.** -/
theorem Turn.paired (turn : Turn l e l') (sound : l.flights.Sound) (h : l.Paired) : l'.Paired := by
  cases turn with
  | idle _ flights computations => exact h.of_eq (by rw [flights]) computations
  | came _ flights computations => exact h.of_eq (by rw [flights]) computations
  | moved _ _ _ _ flights computations => exact h.of_eq (by rw [flights]) computations
  | @answered i _ _ d _ result _ _ _ reply flights computations =>
    have answer := sound.answer_request d.key d.asset.fingerprint
    rw [reply, ← flights] at answer
    refine h.of_eq ?_ computations
    generalize hstate : l'.flights = s' at answer
    cases answer with
    | hit => rfl
    | refused same => exact same
  | @attached i _ _ d _ ticket status _ _ _ reply flights computations =>
    have answer := sound.answer_request d.key d.asset.fingerprint
    rw [reply, ← flights] at answer
    generalize hstate : l'.flights = s' at answer
    cases answer with
    | joined => exact h.of_eq (by rw [hstate]; rfl) computations
    | started => exact h.started (by rw [hstate]; rfl) computations
  | resumed _ _ flights computations =>
    exact h.of_eq (by rw [flights, Flights.resume_flights]) computations
  | dropped _ flights computations => exact h.of_eq (by rw [flights]; rfl) computations
  | @worked _ _ c comp work _ before leads flights computations =>
    obtain ⟨f, hf⟩ := h.flight before
    cases h.stands c comp f before hf with
    | under ending stage possible =>
      refine h.modified before hf (.under ending (by simp) fun o ho => ?_) (fun i => ?_)
        (by rw [flights]) computations
      · -- what the call has before it is all that the computation may still come to
        obtain rfl : work.outcome = o := ho
        exact possible _ leads
      · rw [flights]
        by_cases hi : i = c
        · rw [if_pos hi, hi, hf]
        · rw [if_neg hi]
    | ended _ stage _ =>
      unfold Computation.Leads at leads
      rw [stage] at leads
      exact leads.elim
  | @ended _ c comp result before under ends flights computations =>
    obtain ⟨f, hf⟩ := h.flight before
    cases h.stands c comp f before hf with
    | under ending stage possible =>
      have hstep : l'.flights = { l.flights with
          cache := Flights.cacheAfter l.flights.cache f.key c (.ofResult result)
          flights := l.flights.flights.modify c fun f =>
            { f with ending := some (.ofResult result) } } := by
        rw [flights, Flights.finish, hf]
        simp [ending]
      refine h.modified before hf (.ended rfl rfl (ends.gives possible)) (fun i => ?_) ?_ computations
      · rw [hstep]
        exact Flights.getElem?_finished hf i
      · rw [hstep]
        exact List.length_modify ..
    | ended _ stage _ => exact absurd stage under
  | cleared => exact h.of_eq rfl rfl
  | invalidated => exact h.of_eq rfl rfl

/-- **The computations of a loader and those of its cache stay the same** in every run. -/
theorem paired_run (hl : l.Fresh) (events : List Event) : (l.run events).Paired := by
  induction events using List.reverseRecOn with
  | nil => exact .fresh hl
  | append_singleton events e ih =>
    rw [run_concat]
    exact (turn_after _ e).paired (sound_flights hl events) ih

/-- A computation that has ended has ended with what came of it. -/
theorem normal_run (hl : l.Fresh) (events : List Event) {f : Flight}
    (hf : (l.run events).flights.flights[n]? = some f) {ending : Ending}
    (he : f.ending = some ending) :
    ∃ comp result, (l.run events).computations[n]? = some comp ∧ comp.key = f.key ∧
      comp.Gives result ∧ ending = .ofResult result := by
  have paired := paired_run hl events
  obtain ⟨comp, hc⟩ := paired.computation hf
  have hkey := (paired.key n comp f hc hf).1
  cases paired.stands n comp f hc hf with
  | under ending stage leads =>
    rw [ending] at he
    cases he
  | @ended result ending stage gives =>
    rw [ending] at he
    cases he
    exact ⟨comp, result, hc, hkey.symm, gives, rfl⟩

/-- **A record is of the exports that its handler gave** for the asset of the computation. -/
theorem record_run (hl : l.Fresh) (events : List Event) {f : Flight} {r : Record}
    (hf : (l.run events).flights.flights[n]? = some f) (he : f.ending = some (.record r)) :
    ∃ comp nth v, (l.run events).computations[n]? = some comp ∧ comp.key = f.key ∧
      comp.asset.fingerprint = f.fingerprint ∧ r.fingerprint = f.fingerprint ∧
      (comp.call nth).outcome = .value v ∧ v.exports? = .ok r.exports := by
  obtain ⟨comp, result, hc, hkey, hgives, hres⟩ := normal_run hl events hf he
  have hfp := ((paired_run hl events).key n comp f hc hf).2
  rcases hgives with ⟨nth, v, fields, hcall, hv, rfl⟩ | ⟨fault, rfl⟩
  · have hr : r = ⟨fields, comp.descriptor.origin, comp.key, comp.asset.fingerprint⟩ :=
      Ending.record.inj hres
    rw [hr]
    exact ⟨comp, nth, v, hc, hkey, hfp.symm, hfp.symm, hcall, hv⟩
  · cases hres

end Loader

end TypedImport
