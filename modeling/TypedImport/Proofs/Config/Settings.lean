import TypedImport.Config.Basic
import TypedImport.Proofs.Text.Spelling

/-!
# Settings

What a setting is: its names, what it is a choice of, and how a choice is written. The fields of a layer and of
a configuration are read and written by their setting (`get` and `put`), so that what holds of all settings is
said once.

**Names and values** are told without the functions that look them up (`NamedBy`, `Spells`). A text names one
setting at most and spells one value of it at most, and these are what is looked up and read (`ofName?_iff`,
`read?_iff`). What a value is printed as spells it (`spells_print`).

**A write** changes the field that it names to the value that it spells, and is refused if there are none
(`Layer.set_eq_ok_iff`). Finishing a layer takes each field from it, or else the default
(`Layer.finish_eq_ok_iff`).
-/

namespace TypedImport

namespace Policy

theorem ofName?_eq_some_iff {name : String} {p : Policy} : ofName? name = some p ↔ p.name = name := by
  constructor
  · intro h
    simpa using List.find?_some h
  · rintro rfl
    cases p <;> decide

/-- **A text names a policy** if it spells its name. -/
theorem read?_eq_some_iff {text : String} {p : Policy} :
    read? text = some p ↔ Text.Spells '_' '-' text p.name := by
  have tight : Text.trimChars p.name.toList = p.name.toList := by cases p <;> decide
  rw [read?, ofName?_eq_some_iff, eq_comm]
  exact Text.fold_eq_iff (by decide) (by decide) tight

end Policy

namespace Setting

variable {s t : Setting} {key text : String}

/-! ## Names -/

/-- **The names of a setting**: its key, and a short one for the policy. -/
def names : Setting → List String
  | .policy => [Setting.policy.key, "policy"]
  | s => [s.key]

/-- **A text names a setting**: it spells one of its names. -/
def NamedBy (s : Setting) (text : String) : Prop :=
  ∃ name ∈ s.names, Text.Spells '-' '_' text name

theorem ofKey?_eq_some_iff : ofKey? key = some s ↔ s.key = key := by
  constructor
  · intro h
    simpa using List.find?_some h
  · rintro rfl
    cases s <;> decide

theorem ofName?_eq_some_iff : ofName? key = some s ↔ key ∈ s.names := by
  unfold ofName?
  split
  next h =>
    subst h
    cases s <;> decide
  next h =>
    rw [ofKey?_eq_some_iff]
    cases s <;> simp [names, h, eq_comm]

/-- **The setting that is looked up is the one that a text names.** -/
theorem ofName?_iff : ofName? (normalize text) = some s ↔ s.NamedBy text := by
  have tight : ∀ name ∈ s.names, Text.trimChars name.toList = name.toList := by cases s <;> decide
  rw [ofName?_eq_some_iff]
  unfold NamedBy
  constructor
  · intro h
    exact ⟨_, h, (Text.fold_eq_iff (by decide) (by decide) (tight _ h)).1 rfl⟩
  · rintro ⟨name, hname, spelled⟩
    have folded := (Text.fold_eq_iff (by decide) (by decide) (tight name hname)).2 spelled
    rwa [normalize, folded]

instance (s : Setting) (text : String) : Decidable (s.NamedBy text) :=
  decidable_of_iff _ ofName?_iff

/-- A text names one setting at most. -/
theorem NamedBy.unique (h : s.NamedBy text) (h' : t.NamedBy text) : s = t :=
  Option.some.inj ((ofName?_iff.2 h).symm.trans (ofName?_iff.2 h'))

/-- The case of a name does not count. -/
theorem namedBy_lower : s.NamedBy (Text.lower text) ↔ s.NamedBy text := by
  rw [← ofName?_iff, ← ofName?_iff, normalize, Text.trim_lower, Text.lower_lower, normalize]

theorem namedBy_key (s : Setting) : s.NamedBy s.key := by
  rw [← ofName?_iff]
  cases s <;> decide

/-! ## Values -/

/-- **What a setting is a choice of.** -/
def Value : Setting → Type
  | .policy => Policy
  | .loadRetries => UInt32
  | .handlerTimeout | .retryBackoff | .maxBackoff => UInt64

/-- **A text spells a value**: the name of a policy, or a number. -/
def Spells : (s : Setting) → String → s.Value → Prop
  | .policy, text, p => Text.Spells '_' '-' text (Policy.name p)
  | .loadRetries, text, n => Number.Spells text (UInt32.toNat n)
  | .handlerTimeout, text, n | .retryBackoff, text, n | .maxBackoff, text, n =>
    Number.Spells text (UInt64.toNat n)

/-- The value that a text is read as. -/
def read? : (s : Setting) → String → Option s.Value
  | .policy => Policy.read?
  | .loadRetries => Layer.word32?
  | .handlerTimeout | .retryBackoff | .maxBackoff => Layer.word64?

/-- **The value of a setting that no layer sets**; the policy has none. -/
def default? : (s : Setting) → Option s.Value
  | .policy => none
  | .handlerTimeout => some (30000 : UInt64)
  | .loadRetries => some (3 : UInt32)
  | .retryBackoff => some (50 : UInt64)
  | .maxBackoff => some (2000 : UInt64)

/-- What a value is printed as. -/
def print : (s : Setting) → s.Value → String
  | .policy, p => Policy.name p
  | .loadRetries, n => toString (UInt32.toNat n)
  | .handlerTimeout, n | .retryBackoff, n | .maxBackoff, n => toString (UInt64.toNat n)

theorem word64?_eq_some_iff {n : UInt64} : Layer.word64? text = some n ↔ Number.Spells text n.toNat := by
  simp only [Layer.word64?, Option.map_eq_some_iff, Number.natBelow?_eq_some_iff]
  constructor
  · rintro ⟨k, ⟨spelled, below⟩, rfl⟩
    rwa [UInt64.toNat_ofNat_of_lt' below]
  · intro spelled
    exact ⟨n.toNat, ⟨spelled, n.toNat_lt⟩, UInt64.ofNat_toNat⟩

theorem word32?_eq_some_iff {n : UInt32} : Layer.word32? text = some n ↔ Number.Spells text n.toNat := by
  simp only [Layer.word32?, Option.map_eq_some_iff, Number.natBelow?_eq_some_iff]
  constructor
  · rintro ⟨k, ⟨spelled, below⟩, rfl⟩
    rwa [UInt32.toNat_ofNat_of_lt' below]
  · intro spelled
    exact ⟨n.toNat, ⟨spelled, n.toNat_lt⟩, UInt32.ofNat_toNat⟩

/-- **The value that is read is the one that a text spells.** -/
theorem read?_iff {v : s.Value} : s.read? text = some v ↔ s.Spells text v := by
  cases s with
  | policy => exact Policy.read?_eq_some_iff
  | loadRetries => exact word32?_eq_some_iff
  | handlerTimeout => exact word64?_eq_some_iff
  | retryBackoff => exact word64?_eq_some_iff
  | maxBackoff => exact word64?_eq_some_iff

/-- **What a value is printed as spells it.** -/
theorem spells_print (s : Setting) (v : s.Value) : s.Spells (s.print v) v := by
  cases s with
  | policy =>
    refine Policy.read?_eq_some_iff.1 ?_
    cases v <;> decide
  | loadRetries => exact Number.spells_toString _
  | handlerTimeout => exact Number.spells_toString _
  | retryBackoff => exact Number.spells_toString _
  | maxBackoff => exact Number.spells_toString _

end Setting

/-! ## Fields -/

namespace Layer

variable {l l' : Layer} {s t : Setting}

/-- What a layer says of a setting. -/
def get : Layer → (s : Setting) → Option s.Value
  | l, .policy => l.policy
  | l, .handlerTimeout => l.handlerTimeout
  | l, .loadRetries => l.loadRetries
  | l, .retryBackoff => l.retryBackoff
  | l, .maxBackoff => l.maxBackoff

/-- The layer with a setting made. -/
def put : Layer → (s : Setting) → s.Value → Layer
  | l, .policy, p => { l with policy := some p }
  | l, .handlerTimeout, n => { l with handlerTimeout := some n }
  | l, .loadRetries, n => { l with loadRetries := some n }
  | l, .retryBackoff, n => { l with retryBackoff := some n }
  | l, .maxBackoff, n => { l with maxBackoff := some n }

@[simp] theorem get_put_self (l : Layer) (s : Setting) (v : s.Value) : (l.put s v).get s = some v := by
  cases s <;> rfl

theorem get_put_of_ne (l : Layer) (v : s.Value) (h : t ≠ s) : (l.put s v).get t = l.get t := by
  cases s <;> cases t <;> first | rfl | exact absurd rfl h

/-- A layer is what it says of the settings. -/
theorem ext_get (h : ∀ s, l.get s = l'.get s) : l = l' := by
  obtain ⟨p, t, r, b, m⟩ := l
  obtain ⟨p', t', r', b', m'⟩ := l'
  have hp : p = p' := h .policy
  have ht : t = t' := h .handlerTimeout
  have hr : r = r' := h .loadRetries
  have hb : b = b' := h .retryBackoff
  have hm : m = m' := h .maxBackoff
  rw [hp, ht, hr, hb, hm]

theorem write?_eq (l : Layer) (s : Setting) (value : String) :
    l.write? s value = (s.read? value).map (l.put s) := by
  cases s <;> rfl

/-- **A write by name** sets the setting that the name names to the value that the text spells. -/
theorem set_eq_ok_iff {key value : String} :
    l.set key value = .ok l' ↔ ∃ s v, s.NamedBy key ∧ s.Spells value v ∧ l' = l.put s v := by
  constructor
  · intro h
    simp only [set, write?_eq] at h
    split at h
    next => cases h
    next s hs =>
      split at h
      next hput =>
        cases h
        obtain ⟨v, hv, rfl⟩ := Option.map_eq_some_iff.1 hput
        exact ⟨s, v, Setting.ofName?_iff.1 hs, Setting.read?_iff.1 hv, rfl⟩
      next => cases h
  · rintro ⟨s, v, named, spelled, rfl⟩
    simp only [set, Setting.ofName?_iff.2 named, write?_eq, Setting.read?_iff.2 spelled, Option.map_some]

end Layer

namespace Config

variable {c d : Config} {s t : Setting}

/-- The value that a configuration has for a setting. -/
def get : Config → (s : Setting) → s.Value
  | c, .policy => c.policy
  | c, .handlerTimeout => c.handlerTimeout
  | c, .loadRetries => c.loadRetries
  | c, .retryBackoff => c.retryBackoff
  | c, .maxBackoff => c.maxBackoff

/-- The configuration with another value for a setting. -/
def put : Config → (s : Setting) → s.Value → Config
  | c, .policy, p => { c with policy := p }
  | c, .handlerTimeout, n => { c with handlerTimeout := n }
  | c, .loadRetries, n => { c with loadRetries := n }
  | c, .retryBackoff, n => { c with retryBackoff := n }
  | c, .maxBackoff, n => { c with maxBackoff := n }

@[simp] theorem get_put_self (c : Config) (s : Setting) (v : s.Value) : (c.put s v).get s = v := by
  cases s <;> rfl

theorem get_put_of_ne (c : Config) (v : s.Value) (h : t ≠ s) : (c.put s v).get t = c.get t := by
  cases s <;> cases t <;> first | rfl | exact absurd rfl h

/-- A configuration is its values. -/
theorem ext_get (h : ∀ s, c.get s = d.get s) : c = d := by
  obtain ⟨p, t, r, b, m⟩ := c
  obtain ⟨p', t', r', b', m'⟩ := d
  have hp : p = p' := h .policy
  have ht : t = t' := h .handlerTimeout
  have hr : r = r' := h .loadRetries
  have hb : b = b' := h .retryBackoff
  have hm : m = m' := h .maxBackoff
  rw [hp, ht, hr, hb, hm]

/-- Writes of different settings may be exchanged. -/
theorem put_comm (c : Config) (v : s.Value) (w : t.Value) (h : s ≠ t) :
    (c.put s v).put t w = (c.put t w).put s v := by
  cases s <;> cases t <;> first | rfl | exact absurd rfl h

theorem toLayer_put (c : Config) (s : Setting) (v : s.Value) : (c.put s v).toLayer = c.toLayer.put s v := by
  cases s <;> rfl

end Config

/-! ## Finished layers -/

namespace Layer

variable {l : Layer} {c : Config}

/-- **A finished layer** has for each setting what it says of it, or else the default; and its handlers have some
time. -/
theorem finish_eq_ok_iff :
    l.finish = .ok c ↔ c.handlerTimeout ≠ 0 ∧ ∀ s, (l.get s).or s.default? = some (c.get s) := by
  obtain ⟨policy, timeout, retries, backoff, most⟩ := l
  unfold finish
  cases policy with
  | none =>
    simp only [reduceCtorEq, false_iff]
    rintro ⟨-, values⟩
    cases values .policy
  | some p =>
    dsimp only
    split
    next zero =>
      subst zero
      simp only [reduceCtorEq, false_iff]
      rintro ⟨nonzero, values⟩
      have value : some (0 : UInt64) = some c.handlerTimeout := values .handlerTimeout
      exact nonzero (Option.some.inj value).symm
    next nonzero =>
      constructor
      · intro h
        cases h
        refine ⟨?_, fun s => ?_⟩
        · cases timeout with
          | none => exact (by decide : (30000 : UInt64) ≠ 0)
          | some n => exact fun h => nonzero (congrArg some h)
        · cases s with
          | policy => rfl
          | handlerTimeout => cases timeout <;> rfl
          | loadRetries => cases retries <;> rfl
          | retryBackoff => cases backoff <;> rfl
          | maxBackoff => cases most <;> rfl
      · rintro ⟨-, values⟩
        have value : ∀ (s : Setting) (d : s.Value) (o : Option s.Value),
            o.or (some d) = some (c.get s) → o.getD d = c.get s := by
          intro s d o h
          cases o with
          | none => exact Option.some.inj h
          | some v => exact Option.some.inj h
        refine congrArg Except.ok (Config.ext_get fun s => ?_)
        cases s with
        | policy => exact Option.some.inj (values .policy)
        | handlerTimeout => exact value .handlerTimeout _ timeout (values .handlerTimeout)
        | loadRetries => exact value .loadRetries _ retries (values .loadRetries)
        | retryBackoff => exact value .retryBackoff _ backoff (values .retryBackoff)
        | maxBackoff => exact value .maxBackoff _ most (values .maxBackoff)

/-- **A layer can be finished** if it sets the policy and leaves handlers some time. -/
theorem exists_finish_iff :
    (∃ c, l.finish = .ok c) ↔ l.get .policy ≠ none ∧ l.get .handlerTimeout ≠ some (0 : UInt64) := by
  show _ ↔ l.policy ≠ none ∧ l.handlerTimeout ≠ some 0
  unfold finish
  cases l.policy with
  | none => simp
  | some p => by_cases h : l.handlerTimeout = some 0 <;> simp [h]

/-- The layer of a configuration gives the configuration back, if its handlers have some time. -/
theorem finish_toLayer (c : Config) :
    c.toLayer.finish =
      if c.handlerTimeout = 0 then .error (.invalidValue Setting.handlerTimeout.key "0") else .ok c := by
  unfold finish Config.toLayer
  simp only [Option.some.injEq, Option.getD_some]

end Layer

end TypedImport
