import TypedImport.Proofs.Loader.Computations

/-!
# What an import asked for and what it was given

An import asks the cache once, with the demand that it has come to by then (`Asks`). `Linked` ties every
one of a run to its demand: an import that waits does so for a computation of its key and content, and
the record that it ends with was made by a computation of its key and content.

**Whose computation it was.** A computation was started for a demand, but seldom for that of every import
it serves. `served_run` names both demands: the import's own, and the one that the record was made for.
-/

namespace TypedImport

/-- **A computation was started for a demand.** -/
structure Computation.IsOf (comp : Computation) (d : Demand) : Prop where
  descriptor : comp.descriptor = d.descriptor
  asset : comp.asset = d.asset
  key : comp.key = d.key

namespace Loader

variable {l l' : Loader} {e : Event} {events : List Event} {i j n t : Nat} {d d' : Demand}

/-- **Import `i` of a run has asked the cache**, with a demand. -/
def Asks (l : Loader) (events : List Event) (i : Nat) (d : Demand) : Prop :=
  Happened (fun before e => e = .pollImport i ∧ ((l.run before).approach i).2 = some d) events

/-! ## What grows -/

/-- What a loader has in its cache and its computations, a later one has, too. -/
structure Grown (l l' : Loader) : Prop where
  flights : Flights.Grows l.flights l'.flights
  computation : ∀ (c : Nat) (comp : Computation), l.computations[c]? = some comp →
    ∃ comp', l'.computations[c]? = some comp' ∧ comp'.descriptor = comp.descriptor ∧
      comp'.asset = comp.asset ∧ comp'.key = comp.key

theorem grown_of_modify {stage : Computation.Stage} {c : Nat} {comp : Computation}
    (before : l.computations[c]? = some comp)
    (hc : l'.computations = l.computations.modify c fun comp => { comp with stage := stage })
    (hf : Flights.Grows l.flights l'.flights) : Grown l l' where
  flights := hf
  computation i comp' hi := by
    rw [hc, Flights.getElem?_modify_of_some before]
    by_cases h : i = c
    · rw [h, before] at hi
      cases hi
      exact ⟨_, if_pos h, rfl, rfl, rfl⟩
    · exact ⟨comp', by rw [if_neg h, hi], rfl, rfl, rfl⟩

theorem grown_of_append {more : List Computation} (hc : l'.computations = l.computations ++ more)
    (hf : Flights.Grows l.flights l'.flights) : Grown l l' where
  flights := hf
  computation i comp hi := by
    refine ⟨comp, ?_, rfl, rfl, rfl⟩
    rw [hc, List.getElem?_append_left (List.getElem?_eq_some_iff.1 hi).1, hi]

theorem Turn.grown (h : Turn l e l') (sound : l.flights.Sound) : Grown l l' := by
  have hf : Flights.Grows l.flights l'.flights := by
    rcases h.cache_event with hsame | ⟨event, hevent, -⟩
    · rw [hsame]
      exact .refl _
    · rw [hevent]
      exact (Flights.step_after sound event).grows
  have same : l'.computations = l.computations → Grown l l' := fun hc =>
    grown_of_append (by rw [hc, List.append_nil]) hf
  cases h with
  | idle _ _ computations => exact same computations
  | came _ _ computations => exact same computations
  | moved _ _ _ _ _ computations => exact same computations
  | answered _ _ _ _ _ computations => exact same computations
  | @attached _ _ _ d _ _ status _ _ _ _ _ computations =>
    by_cases hs : status = .computed
    · rw [if_pos hs] at computations
      exact grown_of_append computations hf
    · rw [if_neg hs] at computations
      exact same computations
  | resumed _ _ _ computations => exact same computations
  | dropped _ _ computations => exact same computations
  | worked _ before _ _ computations => exact grown_of_modify before computations hf
  | ended before _ _ _ computations => exact grown_of_modify before computations hf
  | cleared => exact same rfl
  | invalidated => exact same rfl

/-! ## Imports and their demands -/

/-- **Computation `n` backs a demand**: it is of its key and content, and if the demand was told that its
record is computed for it, it is its own. -/
structure Backs (l : Loader) (d : Demand) (n : Nat) (status : CacheStatus) : Prop where
  flight : ∃ f, l.flights.flights[n]? = some f ∧ f.key = d.key ∧ f.fingerprint = d.asset.fingerprint
  own : status = .computed → ∃ comp, l.computations[n]? = some comp ∧ comp.IsOf d

theorem Backs.grown {status : CacheStatus} (h : l.Backs d n status) (g : Grown l l') :
    l'.Backs d n status := by
  obtain ⟨⟨f, hf, hk, hp⟩, own⟩ := h
  constructor
  · obtain ⟨f', hf', hk', hp', -⟩ := g.flights.flight n f hf
    exact ⟨f', hf', hk'.trans hk, hp'.trans hp⟩
  · intro hs
    obtain ⟨comp, hc, hof⟩ := own hs
    obtain ⟨comp', hc', hd, ha, hkey⟩ := g.computation n comp hc
    exact ⟨comp', hc', hd.trans hof.descriptor, ha.trans hof.asset, hkey.trans hof.key⟩

/-- **What stands behind an import at its stage**, in terms of the demands it has asked with. -/
inductive Backed (l : Loader) (asked : Demand → Prop) : Import.Stage → Prop where
  | early {stage : Import.Stage} (early : stage.Early) (none : ∀ d, ¬ asked d) : Backed l asked stage
  | waiting {d : Demand} {t : Nat} {tk : Ticket} (ask : asked d)
      (ticket : l.flights.tickets[t]? = some tk) (backs : l.Backs d tk.flight tk.status) :
      Backed l asked (.computing t)
  | served {d : Demand} {served : Served} {f : Flight} (ask : asked d)
      (backs : l.Backs d served.made.computation served.status)
      (flight : l.flights.flights[served.made.computation]? = some f)
      (ending : f.ending = some (.record served.made.record)) :
      Backed l asked (.done (.ok served))
  | failed {error : ImportError} : Backed l asked (.done (.error error))
  | dropped : Backed l asked .dropped

theorem Backed.grown {asked asked' : Demand → Prop} {stage : Import.Stage}
    (h : l.Backed asked stage) (g : Grown l l') (same : ∀ d, asked' d ↔ asked d) :
    l'.Backed asked' stage := by
  cases h with
  | early early none => exact .early early fun d hd => none d ((same d).1 hd)
  | waiting ask ticket backs =>
    obtain ⟨tk', ht', hn, hs, -⟩ := g.flights.ticket _ _ ticket
    exact .waiting ((same _).2 ask) ht' (hn ▸ hs ▸ backs.grown g)
  | served ask backs flight ending =>
    obtain ⟨f', hf', -, -, hend⟩ := g.flights.flight _ _ flight
    exact .served ((same _).2 ask) (backs.grown g) hf' (hend _ ending)
  | failed => exact .failed
  | dropped => exact .dropped

theorem Backed.ofUnserved {asked : Demand → Prop} {stage : Import.Stage} (h : stage.Unserved)
    (none : ∀ d, ¬ asked d) : l.Backed asked stage := by
  cases stage with
  | begun request => exact .early trivial none
  | fetching => exact .early trivial none
  | computing t => exact h.elim
  | done result =>
    cases result with
    | ok served => exact h.elim
    | error e => exact .failed
  | dropped => exact .dropped

theorem Backed.not_asked {asked : Demand → Prop} {stage : Import.Stage} (h : l.Backed asked stage)
    (early : stage.Early) : ∀ d, ¬ asked d := by
  cases h with
  | early _ none => exact none
  | waiting => exact early.elim
  | served => exact early.elim
  | failed => exact early.elim
  | dropped => exact early.elim

/-- **Every import of a run is tied to its demand.** -/
structure Linked (l : Loader) (events : List Event) : Prop where
  backed : ∀ (i : Nat) (imp : Import), (l.run events).imports[i]? = some imp →
    (l.run events).Backed (Asks l events i) imp.stage
  inside : ∀ (i : Nat) (d : Demand), Asks l events i d → i < (l.run events).imports.length
  once : ∀ (i : Nat) (d d' : Demand), Asks l events i d → Asks l events i d' → d = d'
  made : ∀ (c : Nat) (comp : Computation), (l.run events).computations[c]? = some comp →
    ∃ j d, Asks l events j d ∧ comp.IsOf d

theorem asks_concat :
    Asks l (events ++ [e]) i d ↔
      Asks l events i d ∨ e = .pollImport i ∧ ((l.run events).approach i).2 = some d :=
  happened_concat

theorem asks_quiet (h : (l.run events).Quiet e) : Asks l (events ++ [e]) i d ↔ Asks l events i d := by
  rw [asks_concat]
  constructor
  · rintro (hold | ⟨he, hd⟩)
    · exact hold
    · rw [h i he] at hd
      cases hd
  · exact .inl

theorem Linked.fresh (hl : l.Fresh) : Linked l [] where
  backed i imp hi := by
    rw [show l.run [] = l from rfl, hl.imports] at hi
    cases hi
  inside i d h := (not_happened_nil h).elim
  once i d d' h := (not_happened_nil h).elim
  made c comp hc := by
    rw [show l.run [] = l from rfl, hl.computations] at hc
    cases hc

/-! ## A turn more -/

theorem Turn.computation_new (h : Turn l e l') {c : Nat} {comp : Computation}
    (hc : l'.computations[c]? = some comp) :
    (∃ comp', l.computations[c]? = some comp' ∧ comp.descriptor = comp'.descriptor ∧
        comp.asset = comp'.asset ∧ comp.key = comp'.key) ∨
      ∃ i d, e = .pollImport i ∧ (l.approach i).2 = some d ∧ comp = d.computation := by
  have same : l'.computations = l.computations → ∃ comp', l.computations[c]? = some comp' ∧
      comp.descriptor = comp'.descriptor ∧ comp.asset = comp'.asset ∧ comp.key = comp'.key :=
    fun heq => ⟨comp, heq ▸ hc, rfl, rfl, rfl⟩
  have modified : ∀ {k : Nat} {old : Computation} {stage : Computation.Stage},
      l.computations[k]? = some old →
      l'.computations = l.computations.modify k (fun comp => { comp with stage := stage }) →
      ∃ comp', l.computations[c]? = some comp' ∧ comp.descriptor = comp'.descriptor ∧
        comp.asset = comp'.asset ∧ comp.key = comp'.key := by
    intro k old stage hk heq
    rw [heq, Flights.getElem?_modify_of_some hk] at hc
    split at hc
    next h =>
      cases hc
      exact ⟨old, h ▸ hk, rfl, rfl, rfl⟩
    next => exact ⟨comp, hc, rfl, rfl, rfl⟩
  cases h with
  | idle _ _ computations => exact .inl (same computations)
  | came _ _ computations => exact .inl (same computations)
  | moved _ _ _ _ _ computations => exact .inl (same computations)
  | answered _ _ _ _ _ computations => exact .inl (same computations)
  | @attached i _ _ d _ _ status _ _ demand _ _ computations =>
    by_cases hs : status = .computed
    · rw [computations, if_pos hs] at hc
      rcases Flights.getElem?_append_singleton hc with hold | ⟨-, hnew⟩
      · exact .inl ⟨comp, hold, rfl, rfl, rfl⟩
      · exact .inr ⟨i, d, rfl, demand, hnew⟩
    · rw [if_neg hs] at computations
      exact .inl (same computations)
  | resumed _ _ _ computations => exact .inl (same computations)
  | dropped _ _ computations => exact .inl (same computations)
  | worked _ before _ _ computations => exact .inl (modified before computations)
  | ended before _ _ _ computations => exact .inl (modified before computations)
  | cleared => exact .inl (same rfl)
  | invalidated => exact .inl (same rfl)

theorem getElem?_set_of_some {imports : List Import} {old : Import} (h : imports[i]? = some old)
    (new : Import) (j : Nat) :
    (imports.set i new)[j]? = if j = i then some new else imports[j]? := by
  rw [List.getElem?_set]
  by_cases hj : j = i
  · subst hj
    simp [(List.getElem?_eq_some_iff.1 h).1]
  · simp [hj, Ne.symm hj]

theorem Turn.length_imports_le (h : Turn l e l') : l.imports.length ≤ l'.imports.length := by
  cases h with
  | idle _ _ _ imports => simp [imports]
  | came _ _ _ imports => simp [imports]
  | moved _ _ _ _ _ _ imports => simp [imports]
  | answered _ _ _ _ _ _ imports => simp [imports]
  | attached _ _ _ _ _ _ imports => simp [imports]
  | resumed _ _ _ _ imports => simp [imports]
  | dropped _ _ _ imports => simp [imports]
  | worked _ _ _ _ _ imports => simp [imports]
  | ended _ _ _ _ _ imports => simp [imports]
  | cleared => exact Nat.le_refl _
  | invalidated => exact Nat.le_refl _

theorem early_of_approach (h : (l.approach i).2 = some d) :
    ∃ imp, l.imports[i]? = some imp ∧ imp.stage.Early := by
  rcases approached_or_eq l i with heq | ⟨old, hi, hearly, -⟩
  · rw [heq] at h
    cases h
  · exact ⟨old, hi, hearly⟩

/-- The turn of an early import is that of its way to the cache. -/
theorem pollImport_of_early {imp : Import} (hi : l.imports[i]? = some imp) (early : imp.stage.Early) :
    l.pollImport i = match l.approach i with
      | (l, some d) => l.serve i d
      | (l, none) => l := by
  unfold pollImport
  split
  next states ticket hcomputing =>
    rw [hi] at hcomputing
    cases hcomputing
    exact early.elim
  next => rfl

theorem pollImport_of_asked (asked : (l.approach i).2 = some d) :
    l.pollImport i = (l.approach i).1.serve i d := by
  obtain ⟨imp, hi, early⟩ := early_of_approach asked
  rw [pollImport_of_early hi early]
  cases hr : l.approach i with
  | mk l₀ demand =>
    rw [hr] at asked
    cases asked
    rfl

theorem pollImport_of_silent {imp : Import} (hi : l.imports[i]? = some imp) (early : imp.stage.Early)
    (silent : (l.approach i).2 = none) : l.pollImport i = (l.approach i).1 := by
  rw [pollImport_of_early hi early]
  cases hr : l.approach i with
  | mk l₀ demand =>
    rw [hr] at silent
    cases silent
    rfl

theorem asks_other (h : e = .pollImport i) (hne : j ≠ i) :
    Asks l (events ++ [e]) j d ↔ Asks l events j d := by
  rw [asks_concat]
  constructor
  · rintro (hold | ⟨he, -⟩)
    · exact hold
    · rw [h] at he
      cases he
      exact absurd rfl hne
  · exact .inl

theorem backed_of_answered (hl : l.Fresh) {asked : Demand → Prop} (ask : asked d)
    {result : Except ImportError Served}
    (reply : ((l.run events).flights.request d.key d.asset.fingerprint).1 = .now result)
    (grown : Grown (l.run events) l') : l'.Backed asked (.done result) := by
  have sound := sound_flights hl events
  have answer := sound.answer_request d.key d.asset.fingerprint
  rw [reply] at answer
  generalize ((l.run events).flights.request d.key d.asset.fingerprint).2 = s' at answer
  cases answer with
  | refused => exact .failed
  | @hit made entry same =>
    obtain ⟨f, hf, hkey, hend⟩ := sound.ready d.key made entry
    obtain ⟨-, -, -, -, -, -, hfp, -⟩ := record_run hl events hf hend
    obtain ⟨f', hf', hkey', hfp', hend'⟩ := grown.flights.flight _ f hf
    refine .served ask ⟨⟨f', hf', hkey'.trans hkey, ?_⟩, fun hs => by cases hs⟩ hf' (hend' _ hend)
    rw [hfp', ← hfp, same]

theorem backed_of_attached (hl : l.Fresh) {asked : Demand → Prop} (ask : asked d) {ticket : Nat}
    {status : CacheStatus}
    (reply : ((l.run events).flights.request d.key d.asset.fingerprint).1 = .later ticket status)
    (flights : l'.flights = ((l.run events).flights.request d.key d.asset.fingerprint).2)
    (computations : l'.computations = if status = .computed
      then (l.run events).computations ++ [d.computation] else (l.run events).computations) :
    l'.Backed asked (.computing ticket) := by
  have sound := sound_flights hl events
  have answer := sound.answer_request d.key d.asset.fingerprint
  rw [reply, ← flights] at answer
  generalize hs : l'.flights = s' at answer
  cases answer with
  | @joined n entry =>
    obtain ⟨f, hf, hkey, hfp, -⟩ := sound.mark d.key n d.asset.fingerprint entry
    refine .waiting ask (by rw [hs]; exact List.getElem?_concat_length) ⟨⟨f, ?_, hkey, hfp⟩, ?_⟩
    · rw [hs]
      exact hf
    · exact fun h => by cases h
  | started =>
    refine .waiting ask (by rw [hs]; exact List.getElem?_concat_length)
      ⟨⟨⟨d.key, d.asset.fingerprint, none⟩, ?_, rfl, rfl⟩, fun _ => ⟨d.computation, ?_, rfl, rfl, rfl⟩⟩
    · rw [hs]
      exact List.getElem?_concat_length
    · rw [computations, if_pos rfl, ← (paired_run hl events).length]
      exact List.getElem?_concat_length

theorem Backed.resumed {asked : Demand → Prop} (h : l.Backed asked (.computing t))
    {result : Except ImportError Served} (reply : (l.flights.resume t).1 = some result)
    (grown : Grown l l') : l'.Backed asked (.done result) := by
  cases h with
  | early early => exact early.elim
  | @waiting d _ tk ask ticket backs =>
    unfold Flights.resume at reply
    split at reply
    next => cases reply
    next tk' f ending hs =>
      obtain ⟨ht, -, hf, he⟩ := Flights.sight?_eq_some_iff.1 hs
      rw [ticket] at ht
      cases ht
      cases ending with
      | failed error =>
        cases reply
        exact .failed
      | panicked message =>
        cases reply
        exact .failed
      | record r =>
        cases reply
        obtain ⟨f', hf', -, -, hend⟩ := grown.flights.flight _ f hf
        exact .served ask (backs.grown grown) hf' (hend _ he)

/-- Where a turn writes one import, that one is to be backed anew; the others are as they were. -/
theorem Linked.backed_of_set (h : Linked l events) (grown : Grown (l.run events) l') {k : Nat}
    {old new : Import} (before : (l.run events).imports[k]? = some old)
    (imports : l'.imports = (l.run events).imports.set k new)
    (same : ∀ j, j ≠ k → ∀ d, Asks l (events ++ [e]) j d ↔ Asks l events j d)
    (backed : l'.Backed (Asks l (events ++ [e]) k) new.stage) {imp : Import}
    (hi : l'.imports[i]? = some imp) : l'.Backed (Asks l (events ++ [e]) i) imp.stage := by
  rw [imports, getElem?_set_of_some before] at hi
  split at hi
  next hk =>
    cases hi
    rw [hk]
    exact backed
  next hk => exact (h.backed i _ hi).grown grown (same i hk)

/-- **A turn keeps the imports tied to their demands.** -/
theorem Linked.backed_after (h : Linked l events) (hl : l.Fresh)
    (turn : Turn (l.run events) e l') (i : Nat) (imp : Import) (hi : l'.imports[i]? = some imp) :
    l'.Backed (Asks l (events ++ [e]) i) imp.stage := by
  have grown := turn.grown (sound_flights hl events)
  have old : ∀ {j : Nat} {imp : Import}, (l.run events).imports[j]? = some imp →
      (∀ d, Asks l (events ++ [e]) j d ↔ Asks l events j d) →
      l'.Backed (Asks l (events ++ [e]) j) imp.stage :=
    fun hj same => (h.backed _ _ hj).grown grown same
  cases turn with
  | idle quiet _ _ imports =>
    rw [imports] at hi
    exact old hi fun d => asks_quiet quiet
  | @came _ _ new quiet _ _ imports stage =>
    rw [imports] at hi
    rcases Flights.getElem?_append_singleton hi with hold | ⟨rfl, rfl⟩
    · exact old hold fun d => asks_quiet quiet
    · rcases stage with ⟨request, hs⟩ | ⟨error, hs⟩
      · rw [hs]
        exact .early trivial fun d hd =>
          Nat.lt_irrefl _ (h.inside _ d ((asks_quiet quiet).1 hd))
      · rw [hs]
        exact .failed
  | @moved _ _ k _ _ _ quiet before early unserved _ _ imports =>
    refine h.backed_of_set grown before imports (fun j _ d => asks_quiet quiet) ?_ hi
    exact .ofUnserved unserved fun d hd =>
      (h.backed k _ before).not_asked early d ((asks_quiet quiet).1 hd)
  | @answered k _ _ d _ _ before early demand reply _ _ imports =>
    refine h.backed_of_set grown before imports (fun j hj d => asks_other rfl hj) ?_ hi
    exact backed_of_answered hl (asks_concat.2 (.inr ⟨rfl, demand⟩)) reply grown
  | @attached k _ _ d _ _ _ before early demand reply flights computations imports =>
    refine h.backed_of_set grown before imports (fun j hj d => asks_other rfl hj) ?_ hi
    exact backed_of_attached hl (asks_concat.2 (.inr ⟨rfl, demand⟩)) reply flights computations
  | @resumed k _ _ _ _ _ before reply _ _ imports =>
    have quiet : (l.run events).Quiet (.pollImport k) := by
      intro j hj
      cases hj
      rw [approach_of_computing before]
    refine h.backed_of_set grown before imports (fun j _ d => asks_quiet quiet) ?_ hi
    refine Backed.resumed ?_ reply grown
    have hback := h.backed k _ before
    exact hback.grown ⟨.refl _, fun c comp hc => ⟨comp, hc, rfl, rfl, rfl⟩⟩ fun d => asks_quiet quiet
  | @dropped k _ _ _ before _ _ imports =>
    have quiet : (l.run events).Quiet (.dropImport k) := by
      intro j hj
      cases hj
    exact h.backed_of_set grown before imports (fun j _ d => asks_quiet quiet) .dropped hi
  | worked quiet _ _ _ _ imports =>
    rw [imports] at hi
    exact old hi fun d => asks_quiet quiet
  | ended _ _ _ _ _ imports =>
    rw [imports] at hi
    exact old hi fun d => asks_quiet fun _ h => by cases h
  | cleared => exact old hi fun d => asks_quiet fun _ h => by cases h
  | invalidated => exact old hi fun d => asks_quiet fun _ h => by cases h

theorem Linked.concat (h : Linked l events) (hl : l.Fresh) (e : Event) : Linked l (events ++ [e]) := by
  have turn := turn_after (l.run events) e
  refine ⟨?_, ?_, ?_, ?_⟩
  · rw [run_concat]
    exact h.backed_after hl turn
  · intro i d hd
    rw [run_concat]
    refine Nat.lt_of_lt_of_le ?_ turn.length_imports_le
    rcases asks_concat.1 hd with hold | ⟨-, hnew⟩
    · exact h.inside i d hold
    · obtain ⟨imp, hi, -⟩ := early_of_approach hnew
      exact (List.getElem?_eq_some_iff.1 hi).1
  · -- an import that asks now is early, so it has not asked before
    have fresh : ∀ i d d', Asks l events i d → ((l.run events).approach i).2 = some d' → False := by
      intro i d d' hd hd'
      obtain ⟨imp, hi, hearly⟩ := early_of_approach hd'
      exact (h.backed i imp hi).not_asked hearly d hd
    intro i d d' hd hd'
    rcases asks_concat.1 hd with hold | ⟨-, hnew⟩
    · rcases asks_concat.1 hd' with hold' | ⟨-, hnew'⟩
      · exact h.once i d d' hold hold'
      · exact (fresh i d d' hold hnew').elim
    · rcases asks_concat.1 hd' with hold' | ⟨-, hnew'⟩
      · exact (fresh i d' d hold' hnew).elim
      · exact Option.some.inj (hnew.symm.trans hnew')
  · intro c comp hc
    rw [run_concat] at hc
    rcases turn.computation_new hc with ⟨comp', hc', hd, ha, hk⟩ | ⟨i, d, he, hd, rfl⟩
    · obtain ⟨j, d, hasks, hof⟩ := h.made c comp' hc'
      exact ⟨j, d, hasks.append [e], hd.trans hof.descriptor, ha.trans hof.asset, hk.trans hof.key⟩
    · exact ⟨i, d, asks_concat.2 (.inr ⟨he, hd⟩), rfl, rfl, rfl⟩

/-- **The imports of every run are tied to their demands.** -/
theorem linked_run (hl : l.Fresh) (events : List Event) : Linked l events := by
  induction events using List.reverseRecOn with
  | nil => exact .fresh hl
  | append_singleton events e ih => exact ih.concat hl e

end Loader

end TypedImport
