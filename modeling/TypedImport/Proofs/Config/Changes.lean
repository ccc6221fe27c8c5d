import TypedImport.Proofs.Config.Settings

/-!
# Changing settings in place

A change by name is refused or makes one setting what the text spells, and leaves all the others as they are
(`Config.set_eq`). It is refused if no setting is named, if the text spells no value of it, or if handlers were
left without time; then the configuration is as before.

**With time for handlers** in a configuration, what comes of a change does not depend on the configuration, and
a change leaves them time (`change_fst`, `timed_change`). So changes of different settings may be exchanged, and
a series of changes makes of one configuration any other (`atomic_change`). Without it the order counts: nothing
can be changed until the time is.
-/

namespace TypedImport

namespace Config

variable {c d : Config} {s t : Setting} {key text key' text' : String} {error : ConfigError}

/-- **Changes a setting by name**: what comes of it, and the configuration after. -/
def change (c : Config) (key text : String) : Except ConfigError Unit × Config :=
  match c.set key text with
  | .ok d => (.ok (), d)
  | .error error => (.error error, c)

/-- **What a setting by name comes to.** -/
theorem set_eq (c : Config) (key text : String) :
    c.set key text =
      match Setting.ofName? (Setting.normalize key) with
      | none => .error (.unknownKey (Setting.normalize key))
      | some s =>
        match s.read? text with
        | none => .error (.invalidValue s.key text)
        | some v =>
          if (c.put s v).handlerTimeout = 0 then .error (.invalidValue Setting.handlerTimeout.key "0")
          else .ok (c.put s v) := by
  unfold set
  simp only [Layer.set, Layer.write?_eq]
  cases Setting.ofName? (Setting.normalize key) with
  | none => rfl
  | some s =>
    dsimp only
    cases s.read? text with
    | none => rfl
    | some v =>
      dsimp only [Option.map_some]
      rw [← toLayer_put, Layer.finish_toLayer]

theorem set_of_named {v : s.Value} (named : s.NamedBy key) (spelled : s.Spells text v) :
    c.set key text =
      if (c.put s v).handlerTimeout = 0 then .error (.invalidValue Setting.handlerTimeout.key "0")
      else .ok (c.put s v) := by
  simp only [set_eq, Setting.ofName?_iff.2 named, Setting.read?_iff.2 spelled]

/-- **A setting by name succeeds** with the named setting made what the text spells. -/
theorem set_eq_ok_iff :
    c.set key text = .ok d ↔
      ∃ (s : Setting) (v : s.Value), s.NamedBy key ∧ s.Spells text v ∧ d = c.put s v ∧
        d.handlerTimeout ≠ 0 := by
  constructor
  · intro h
    rw [set_eq] at h
    split at h
    next => cases h
    next s hs =>
      split at h
      next => cases h
      next v hv =>
        split at h
        next => cases h
        next timed =>
          cases h
          exact ⟨s, v, Setting.ofName?_iff.1 hs, Setting.read?_iff.1 hv, rfl, timed⟩
  · rintro ⟨s, v, named, spelled, rfl, timed⟩
    rw [set_of_named named spelled, if_neg timed]

theorem change_of_ok (h : c.set key text = .ok d) : c.change key text = (.ok (), d) := by
  unfold change
  rw [h]

theorem change_of_error (h : c.set key text = .error error) : c.change key text = (.error error, c) := by
  unfold change
  rw [h]

theorem change_eq_ok_iff : (c.change key text).1 = .ok () ↔ ∃ d, c.set key text = .ok d := by
  unfold change
  cases c.set key text <;> simp

theorem change_eq_error_iff : (c.change key text).1 = .error error ↔ c.set key text = .error error := by
  unfold change
  cases c.set key text <;> simp

/-! ## Time for handlers -/

/-- Whether a change leaves handlers without time lies in the change alone. -/
theorem timeless_put_iff (hc : c.handlerTimeout ≠ 0) (hd : d.handlerTimeout ≠ 0) (v : s.Value) :
    (d.put s v).handlerTimeout = 0 ↔ (c.put s v).handlerTimeout = 0 := by
  cases s with
  | handlerTimeout => exact .rfl
  | _ => exact iff_of_false hd hc

/-- **What comes of a change** does not depend on the configuration. -/
theorem change_fst (hc : c.handlerTimeout ≠ 0) (hd : d.handlerTimeout ≠ 0) (key text : String) :
    (d.change key text).1 = (c.change key text).1 := by
  unfold change
  rw [set_eq, set_eq]
  cases Setting.ofName? (Setting.normalize key) with
  | none => rfl
  | some s =>
    dsimp only
    cases s.read? text with
    | none => rfl
    | some v =>
      dsimp only
      by_cases timeless : (c.put s v).handlerTimeout = 0
      · rw [if_pos timeless, if_pos ((timeless_put_iff hc hd v).2 timeless)]
      · rw [if_neg timeless, if_neg fun h => timeless ((timeless_put_iff hc hd v).1 h)]

/-- **A change leaves handlers their time.** -/
theorem timed_change (hc : c.handlerTimeout ≠ 0) (key text : String) :
    (c.change key text).2.handlerTimeout ≠ 0 := by
  cases h : c.set key text with
  | error error => rwa [change_of_error h]
  | ok d =>
    rw [change_of_ok h]
    obtain ⟨-, -, -, -, -, timed⟩ := set_eq_ok_iff.1 h
    exact timed

/-- Changes of different settings may be exchanged. -/
theorem change_comm (hc : c.handlerTimeout ≠ 0)
    (different : ∀ s : Setting, ¬ (s.NamedBy key ∧ s.NamedBy key')) :
    ((c.change key text).2.change key' text').2 = ((c.change key' text').2.change key text).2 := by
  -- a change that is refused is refused after the other one too
  have refused : ∀ {key text error} (key' text' : String), c.set key text = .error error →
      ((c.change key' text').2.change key text).2 = (c.change key' text').2 := by
    intro key text error key' text' h
    have outcome := change_fst hc (timed_change hc key' text') key text
    rw [change_eq_error_iff.2 h] at outcome
    rw [change_of_error (change_eq_error_iff.1 outcome)]
  cases h : c.set key text with
  | error error => rw [refused key' text' h, change_of_error h]
  | ok d =>
    cases h' : c.set key' text' with
    | error error => rw [refused key text h', change_of_error h']
    | ok d' =>
      obtain ⟨s, v, named, spelled, rfl, timed⟩ := set_eq_ok_iff.1 h
      obtain ⟨t, w, named', spelled', rfl, timed'⟩ := set_eq_ok_iff.1 h'
      have hst : s ≠ t := by
        rintro rfl
        exact different s ⟨named, named'⟩
      have first : (c.put s v).set key' text' = .ok ((c.put s v).put t w) := by
        rw [set_of_named named' spelled', if_neg fun h => timed' ((timeless_put_iff hc timed w).1 h)]
      have second : (c.put t w).set key text = .ok ((c.put t w).put s v) := by
        rw [set_of_named named spelled, if_neg fun h => timed ((timeless_put_iff hc timed' v).1 h)]
      rw [change_of_ok h, change_of_ok h', change_of_ok first, change_of_ok second, put_comm c v w hst]

/-! ## From one configuration to another -/

/-- **Makes a series of changes**, as far as they succeed. -/
def setAll (c : Config) (changes : List (String × String)) : Except ConfigError Config :=
  changes.foldlM (fun c change => c.set change.1 change.2) c

/-- A configuration as it is written for some settings. -/
def printed (d : Config) (order : List Setting) : List (String × String) :=
  order.map fun s => (s.key, s.print (d.get s))

/-- The settings that another configuration is written for become its own. -/
theorem setAll_printed (hc : c.handlerTimeout ≠ 0) (hd : d.handlerTimeout ≠ 0) (order : List Setting) :
    ∃ e, c.setAll (d.printed order) = .ok e ∧ ∀ t, e.get t = if t ∈ order then d.get t else c.get t := by
  induction order generalizing c with
  | nil => exact ⟨c, rfl, fun t => by simp⟩
  | cons s rest ih =>
    have timed : (c.put s (d.get s)).handlerTimeout ≠ 0 := by
      cases s with
      | handlerTimeout => exact hd
      | _ => exact hc
    have hset : c.set s.key (s.print (d.get s)) = .ok (c.put s (d.get s)) := by
      rw [set_of_named (Setting.namedBy_key s) (Setting.spells_print s _), if_neg timed]
    obtain ⟨e, he, values⟩ := ih timed
    refine ⟨e, ?_, fun t => ?_⟩
    · show (c.set s.key (s.print (d.get s)) >>= _) = _
      rw [hset]
      exact he
    · rw [values]
      by_cases hts : t = s
      · subst hts
        simp
      · simp [hts, get_put_of_ne c _ hts]

/-- **Changes of a configuration in place.** -/
structure Atomic (c : Config) : Prop where
  /-- A change succeeds if the key names a setting, the text spells a value of it, and handlers have some time
  with it. -/
  succeeds_iff : ∀ key text, (c.change key text).1 = .ok () ↔
    ∃ (s : Setting) (v : s.Value), s.NamedBy key ∧ s.Spells text v ∧ (c.put s v).handlerTimeout ≠ 0
  /-- Then it makes the named setting what the text spells and leaves all others as they are. -/
  changes : ∀ key text, (c.change key text).1 = .ok () →
    ∃ (s : Setting) (v : s.Value), s.NamedBy key ∧ s.Spells text v ∧ (c.change key text).2.get s = v ∧
      ∀ t, t ≠ s → (c.change key text).2.get t = c.get t
  /-- Else it leaves the configuration as it is, -/
  keeps : ∀ key text error, (c.change key text).1 = .error error → (c.change key text).2 = c
  /-- and tells which of the three is wrong. -/
  tells : ∀ key text error, (c.change key text).1 = .error error →
    ((∀ s : Setting, ¬ s.NamedBy key) ∧ error = .unknownKey (Setting.normalize key)) ∨
      ∃ s : Setting, s.NamedBy key ∧
        (((∀ v, ¬ s.Spells text v) ∧ error = .invalidValue s.key text) ∨
          ∃ v, s.Spells text v ∧ (c.put s v).handlerTimeout = 0 ∧
            error = .invalidValue "handler_timeout_ms" "0")
  /-- The settings of another configuration, as they are printed and in any order, make it that one. -/
  becomes : ∀ d order, c.handlerTimeout ≠ 0 → d.handlerTimeout ≠ 0 → (∀ s : Setting, s ∈ order) →
    c.setAll (d.printed order) = .ok d
  /-- Changes of different settings may be exchanged, and the same comes of each. -/
  commutes : ∀ key text key' text', c.handlerTimeout ≠ 0 →
    (∀ s : Setting, ¬ (s.NamedBy key ∧ s.NamedBy key')) →
    ((c.change key text).2.change key' text').2 = ((c.change key' text').2.change key text).2 ∧
      ((c.change key' text').2.change key text).1 = (c.change key text).1 ∧
      ((c.change key text).2.change key' text').1 = (c.change key' text').1

/-- **A change in place is made as a whole or not at all**, and changes one setting. -/
theorem atomic_change (c : Config) : c.Atomic where
  succeeds_iff key text := by
    rw [change_eq_ok_iff]
    constructor
    · rintro ⟨d, h⟩
      obtain ⟨s, v, named, spelled, rfl, timed⟩ := set_eq_ok_iff.1 h
      exact ⟨s, v, named, spelled, timed⟩
    · rintro ⟨s, v, named, spelled, timed⟩
      exact ⟨_, set_eq_ok_iff.2 ⟨s, v, named, spelled, rfl, timed⟩⟩
  changes key text succeeded := by
    obtain ⟨d, h⟩ := change_eq_ok_iff.1 succeeded
    obtain ⟨s, v, named, spelled, rfl, -⟩ := set_eq_ok_iff.1 h
    rw [change_of_ok h]
    exact ⟨s, v, named, spelled, get_put_self c s v, fun t => get_put_of_ne c v⟩
  keeps key text error refused := by
    rw [change_of_error (change_eq_error_iff.1 refused)]
  tells key text error refused := by
    have h := change_eq_error_iff.1 refused
    rw [set_eq] at h
    split at h
    next hs =>
      cases h
      refine .inl ⟨fun s named => ?_, rfl⟩
      rw [Setting.ofName?_iff.2 named] at hs
      cases hs
    next s hs =>
      refine .inr ⟨s, Setting.ofName?_iff.1 hs, ?_⟩
      split at h
      next hv =>
        cases h
        refine .inl ⟨fun v spelled => ?_, rfl⟩
        rw [Setting.read?_iff.2 spelled] at hv
        cases hv
      next v hv =>
        split at h
        next timeless =>
          cases h
          exact .inr ⟨v, Setting.read?_iff.1 hv, timeless, rfl⟩
        next => cases h
  becomes d order hc hd all := by
    obtain ⟨e, he, values⟩ := setAll_printed hc hd order
    have same : e = d := ext_get fun t => by rw [values, if_pos (all t)]
    rw [he, same]
  commutes key text key' text' hc different :=
    ⟨change_comm hc different, change_fst hc (timed_change hc key' text') key text,
      change_fst hc (timed_change hc key text) key' text'⟩

/-- Without time for handlers the order counts: nothing else is changed before they have some. -/
example :
    let c : Config := { policy := .registryOnly, handlerTimeout := 0 }
    ((c.change "load_retries" "5").2.change "handler_timeout_ms" "9").2.loadRetries = 3 ∧
      ((c.change "handler_timeout_ms" "9").2.change "load_retries" "5").2.loadRetries = 5 := by
  decide

end Config

end TypedImport
