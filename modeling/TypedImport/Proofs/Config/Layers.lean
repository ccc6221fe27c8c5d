import Mathlib.Data.List.Perm.Basic
import TypedImport.Config.Load
import TypedImport.Proofs.Config.Settings

/-!
# Layers over layers

What a configuration is in the end: for each setting the last value that was written to it, by the caller, or
else by the environment, or else by the file, or else its default (`Config.final?`). It is loaded just if each
name and each value is a good one, some layer sets the policy, and handlers have some time in the end
(`Config.load_eq_ok_iff`).

**One layer over another** says of a setting what the upper one says, or else the lower one
(`Layer.get_onto`). Where the upper one is a series of pairs, writing them succeeds if each of them is a
write (`Layer.exists_setAll_iff`), and then each field is the last value written to it or what it was
(`Layer.get_setAll`). All the rest follows from these: what a higher layer writes hides what a lower one says,
and the order of pairs of different settings does not count.
-/

namespace TypedImport

namespace Setting

variable {s : Setting} {pairs pairs' : List (String × String)}

/-- What a name with a text makes a setting, if it names it. -/
def written? (s : Setting) (pair : String × String) : Option s.Value :=
  if s.NamedBy pair.1 then s.read? pair.2 else none

/-- **The last value that is written to a setting.** -/
def last? (s : Setting) (pairs : List (String × String)) : Option s.Value :=
  (pairs.filterMap s.written?).getLast?

theorem written?_of_spells {pair : String × String} {v : s.Value} (named : s.NamedBy pair.1)
    (spelled : s.Spells pair.2 v) : s.written? pair = some v := by
  rw [written?, if_pos named, read?_iff.2 spelled]

theorem written?_of_other {t : Setting} {pair : String × String} (named : t.NamedBy pair.1) (h : s ≠ t) :
    s.written? pair = none :=
  if_neg fun named' => h (named'.unique named)

theorem last?_cons (s : Setting) (pair : String × String) (pairs : List (String × String)) :
    s.last? (pair :: pairs) = (s.last? pairs).or (s.written? pair) := by
  unfold last?
  rw [List.filterMap_cons]
  cases s.written? pair with
  | none => rw [Option.or_none]
  | some v =>
    rw [List.getLast?_cons]
    cases (pairs.filterMap s.written?).getLast? <;> rfl

/-- Only the pairs that name a setting count for it. -/
theorem last?_congr
    (h : pairs'.filter (fun pair => s.NamedBy pair.1) = pairs.filter (fun pair => s.NamedBy pair.1)) :
    s.last? pairs' = s.last? pairs := by
  have only : ∀ pairs : List (String × String),
      pairs.filterMap s.written? = (pairs.filter fun pair => s.NamedBy pair.1).filterMap s.written? := by
    intro pairs
    rw [List.filterMap_filter]
    refine congrArg (List.filterMap · pairs) (funext fun pair => ?_)
    simp only [decide_eq_true_eq]
    by_cases named : s.NamedBy pair.1
    · rw [if_pos named]
    · rw [if_neg named, written?, if_neg named]
  unfold last?
  rw [only pairs', h, ← only]

end Setting

/-- **A name with a text is a write**: it names a setting, and the text spells a value of that. -/
def Writes (pair : String × String) : Prop :=
  ∃ (s : Setting) (v : s.Value), s.NamedBy pair.1 ∧ s.Spells pair.2 v

/-- **Pairs in another order**, in which those of each setting follow one another as before. -/
structure Reordered (pairs pairs' : List (String × String)) : Prop where
  perm : pairs'.Perm pairs
  each : ∀ s : Setting,
    pairs'.filter (fun pair => s.NamedBy pair.1) = pairs.filter (fun pair => s.NamedBy pair.1)

namespace Layer

variable {l l' : Layer} {pairs : List (String × String)}

/-- The layer that says these things of the settings. -/
def ofValues (value : (s : Setting) → Option s.Value) : Layer where
  policy := value .policy
  handlerTimeout := value .handlerTimeout
  loadRetries := value .loadRetries
  retryBackoff := value .retryBackoff
  maxBackoff := value .maxBackoff

@[simp] theorem get_ofValues (value : (s : Setting) → Option s.Value) (s : Setting) :
    (ofValues value).get s = value s := by
  cases s <;> rfl

/-- **One layer over another** says of a setting what the upper one says, or else the lower one. -/
theorem get_onto (upper lower : Layer) (s : Setting) :
    (upper.onto lower).get s = (upper.get s).or (lower.get s) := by
  cases s <;> rfl

/-- Over a layer that sets nothing a layer stays what it is. -/
@[simp] theorem onto_empty (l : Layer) : l.onto {} = l := by
  refine ext_get fun s => ?_
  have nothing : ({} : Layer).get s = none := by cases s <;> rfl
  rw [get_onto, nothing, Option.or_none]

/-- **Pairs can be written** if each of them is a write. -/
theorem exists_setAll_iff : (∃ l', l.setAll pairs = .ok l') ↔ ∀ pair ∈ pairs, Writes pair := by
  induction pairs generalizing l with
  | nil => exact iff_of_true ⟨l, rfl⟩ nofun
  | cons pair rest ih =>
    obtain ⟨key, value⟩ := pair
    rw [List.forall_mem_cons]
    unfold setAll
    cases hset : l.set key value with
    | error e =>
      have unwritten : ¬ Writes (key, value) := by
        rintro ⟨s, v, named, spelled⟩
        rw [set_eq_ok_iff.2 ⟨s, v, named, spelled, rfl⟩] at hset
        cases hset
      simp [unwritten]
    | ok l₁ =>
      obtain ⟨s, v, named, spelled, -⟩ := set_eq_ok_iff.1 hset
      have written : Writes (key, value) := ⟨s, v, named, spelled⟩
      simp [ih, written]

/-- **After a series of writes** a field is the last value written to it, or what it was. -/
theorem get_setAll (h : l.setAll pairs = .ok l') (s : Setting) :
    l'.get s = (s.last? pairs).or (l.get s) := by
  induction pairs generalizing l with
  | nil =>
    cases h
    rfl
  | cons pair rest ih =>
    obtain ⟨key, value⟩ := pair
    unfold setAll at h
    cases hset : l.set key value with
    | error e =>
      rw [hset] at h
      cases h
    | ok l₁ =>
      rw [hset] at h
      obtain ⟨t, v, named, spelled, rfl⟩ := set_eq_ok_iff.1 hset
      rw [ih h, Setting.last?_cons, Option.or_assoc]
      refine congrArg ((s.last? rest).or ·) ?_
      by_cases hst : s = t
      · subst hst
        rw [get_put_self, Setting.written?_of_spells named spelled, Option.some_or]
      · rw [get_put_of_ne l v hst, Setting.written?_of_other named hst, Option.none_or]

/-! ## The environment -/

theorem dropPrefix?_eq_some_iff {start name key : String} :
    dropPrefix? start name = some key ↔ name = start ++ key := by
  unfold dropPrefix?
  constructor
  · intro h
    split at h
    next hprefix =>
      obtain ⟨rest, hrest⟩ := List.isPrefixOf_iff_prefix.1 hprefix
      cases h
      rw [← String.toList_inj, String.toList_append, String.toList_ofList, ← hrest, ← String.length_toList,
        List.drop_left]
    next => cases h
  · rintro rfl
    rw [String.toList_append, if_pos (List.isPrefixOf_iff_prefix.2 (List.prefix_append ..)),
      ← String.length_toList, List.drop_left, String.ofList_toList]

/-- **The settings of an environment**: the variables with the prefix, without it. -/
def prefixed (environment : List (String × String)) : List (String × String) :=
  environment.filterMap fun (name, value) =>
    (dropPrefix? environmentPrefix name).map fun key => (key, value)

theorem mem_prefixed {environment : List (String × String)} {pair : String × String} :
    pair ∈ prefixed environment ↔ ("SPACEY_LOADER_" ++ pair.1, pair.2) ∈ environment := by
  obtain ⟨key, value⟩ := pair
  unfold prefixed
  simp only [List.mem_filterMap, Option.map_eq_some_iff, dropPrefix?_eq_some_iff, Prod.mk.injEq]
  constructor
  · rintro ⟨⟨name, value'⟩, hmem, key', hname, rfl, rfl⟩
    exact hname ▸ hmem
  · intro hmem
    exact ⟨_, hmem, key, rfl, rfl, rfl⟩

/-- They are written with their names in lowercase, -/
theorem ofEnvironment_eq (environment : List (String × String)) :
    ofEnvironment environment = (prefixed environment).map fun pair => (Text.lower pair.1, pair.2) := by
  unfold ofEnvironment prefixed
  rw [List.map_filterMap]
  congr 1
  funext pair
  rw [Option.map_map]
  rfl

/-- which is the same: they can be written if each of them is a write, -/
theorem exists_setAll_ofEnvironment_iff {environment : List (String × String)} :
    (∃ l', l.setAll (ofEnvironment environment) = .ok l') ↔ ∀ pair ∈ prefixed environment, Writes pair := by
  rw [exists_setAll_iff, ofEnvironment_eq, List.forall_mem_map]
  simp only [Writes, Setting.namedBy_lower]

/-- and the last value counts. -/
theorem last?_ofEnvironment (s : Setting) (environment : List (String × String)) :
    s.last? (ofEnvironment environment) = s.last? (prefixed environment) := by
  unfold Setting.last?
  rw [ofEnvironment_eq, List.filterMap_map]
  refine congrArg List.getLast? (congrArg (List.filterMap · _) (funext fun pair => ?_))
  simp only [Setting.written?, Function.comp_apply, Setting.namedBy_lower]

end Layer

namespace Config

variable {file file' : Option (String × FileText)} {environment environment' overrides overrides' :
  List (String × String)} {layer : Layer} {c : Config}

/-! ## All layers -/

/-- **The lowest layer**: that of the file, or one that sets nothing if there is no file. -/
def lowest : Option (String × FileText) → Except ConfigError Layer
  | none => .ok {}
  | some (path, text) => fileLayer path text

/-- **What a setting comes to** over a layer, if any layer sets it: the last value of the caller, or else of the
environment, or else the one below. -/
def final? (layer : Layer) (environment overrides : List (String × String)) (s : Setting) : Option s.Value :=
  (s.last? overrides).or ((s.last? (Layer.prefixed environment)).or (layer.get s))

theorem load_of_error {error : ConfigError} (h : lowest file = .error error) :
    load file environment overrides = .error error := by
  cases file with
  | none => cases h
  | some entry =>
    have unread : (fileLayer entry.1 entry.2).map (fun layer => layer.onto {}) = .error error :=
      congrArg (Except.map _) h
    exact congrArg (Except.bind · _) unread

theorem load_of_lowest (h : lowest file = .ok layer) :
    load file environment overrides =
      (layer.setAll (Layer.ofEnvironment environment)).bind fun l => (l.setAll overrides).bind Layer.finish := by
  cases file with
  | none =>
    cases h
    rfl
  | some entry =>
    have read : (fileLayer entry.1 entry.2).map (fun layer => layer.onto {}) = .ok layer := by
      rw [show fileLayer entry.1 entry.2 = .ok layer from h, Except.map, Layer.onto_empty]
    exact congrArg (Except.bind · _) read

theorem bind_eq_ok_iff {α β : Type} {x : Except ConfigError α} {f : α → Except ConfigError β} {b : β} :
    x.bind f = .ok b ↔ ∃ a, x = .ok a ∧ f a = .ok b := by
  cases x with
  | error e => simp [Except.bind]
  | ok a => simp [Except.bind]

/-- **A configuration is loaded** if all names and values are good ones, and it is what the settings come to. -/
theorem load_eq_ok_iff (h : lowest file = .ok layer) :
    load file environment overrides = .ok c ↔
      (∀ pair ∈ Layer.prefixed environment, Writes pair) ∧ (∀ pair ∈ overrides, Writes pair) ∧
        (Layer.ofValues (final? layer environment overrides)).finish = .ok c := by
  have comes : ∀ {l₁ l₂ : Layer}, layer.setAll (Layer.ofEnvironment environment) = .ok l₁ →
      l₁.setAll overrides = .ok l₂ → l₂ = Layer.ofValues (final? layer environment overrides) := by
    intro l₁ l₂ h₁ h₂
    refine Layer.ext_get fun s => ?_
    rw [Layer.get_setAll h₂, Layer.get_setAll h₁, Layer.last?_ofEnvironment, Layer.get_ofValues, final?]
  simp only [load_of_lowest h, bind_eq_ok_iff]
  constructor
  · rintro ⟨l₁, h₁, l₂, h₂, finished⟩
    exact ⟨Layer.exists_setAll_ofEnvironment_iff.1 ⟨l₁, h₁⟩, Layer.exists_setAll_iff.1 ⟨l₂, h₂⟩,
      comes h₁ h₂ ▸ finished⟩
  · rintro ⟨wellEnvironment, wellOverrides, finished⟩
    obtain ⟨l₁, h₁⟩ := Layer.exists_setAll_ofEnvironment_iff (l := layer).2 wellEnvironment
    obtain ⟨l₂, h₂⟩ := Layer.exists_setAll_iff (l := l₁).2 wellOverrides
    exact ⟨l₁, h₁, l₂, h₂, comes h₁ h₂ ▸ finished⟩

/-- **How a configuration is loaded from layers.** -/
structure Layered (file : Option (String × FileText)) (environment overrides : List (String × String)) :
    Prop where
  /-- A file that gives no layer gives no configuration, and what is wrong with it is told. -/
  unread : ∀ error, lowest file = .error error → load file environment overrides = .error error
  /-- Else there is one just if each variable with the prefix and each setting of the caller names a setting and
  spells a value of it, some layer sets the policy, and the time of handlers is not zero in the end. -/
  loads_iff : ∀ layer, lowest file = .ok layer →
    ((∃ c, load file environment overrides = .ok c) ↔
      (∀ name text, ("SPACEY_LOADER_" ++ name, text) ∈ environment → Writes (name, text)) ∧
      (∀ pair ∈ overrides, Writes pair) ∧
      final? layer environment overrides .policy ≠ none ∧
      final? layer environment overrides .handlerTimeout ≠ some (0 : UInt64))
  /-- Each setting is then the last value that was written to it, or else its default. -/
  value : ∀ layer c, lowest file = .ok layer → load file environment overrides = .ok c →
    ∀ s, (final? layer environment overrides s).or s.default? = some (c.get s)
  /-- What the file says of a setting does nothing, a time of zero too, where a higher layer writes it; -/
  hidesFile : ∀ file' layer layer', lowest file = .ok layer → lowest file' = .ok layer' →
    (∀ s : Setting, s.last? overrides = none → s.last? (Layer.prefixed environment) = none →
      layer'.get s = layer.get s) →
    ∀ c, load file' environment overrides = .ok c ↔ load file environment overrides = .ok c
  /-- and so it is with what the environment says, where the caller writes it. -/
  hidesEnvironment : ∀ environment', (∀ pair ∈ Layer.prefixed environment, Writes pair) →
    (∀ pair ∈ Layer.prefixed environment', Writes pair) →
    (∀ s : Setting, s.last? overrides = none →
      s.last? (Layer.prefixed environment') = s.last? (Layer.prefixed environment)) →
    ∀ c, load file environment' overrides = .ok c ↔ load file environment overrides = .ok c
  /-- The order of variables of different settings does not count, nor that of settings of the caller. -/
  reordered : ∀ environment' overrides',
    Reordered (Layer.prefixed environment) (Layer.prefixed environment') → Reordered overrides overrides' →
    ∀ c, load file environment' overrides' = .ok c ↔ load file environment overrides = .ok c

/-- Layers that come to the same give the same configuration, if names and values are as good. -/
theorem load_congr {layer' : Layer} (h : lowest file = .ok layer) (h' : lowest file' = .ok layer')
    (wellEnvironment : (∀ pair ∈ Layer.prefixed environment', Writes pair) ↔
      ∀ pair ∈ Layer.prefixed environment, Writes pair)
    (wellOverrides : (∀ pair ∈ overrides', Writes pair) ↔ ∀ pair ∈ overrides, Writes pair)
    (same : ∀ s, final? layer' environment' overrides' s = final? layer environment overrides s) :
    load file' environment' overrides' = .ok c ↔ load file environment overrides = .ok c := by
  rw [load_eq_ok_iff h', load_eq_ok_iff h, wellEnvironment, wellOverrides, funext same]

/-- Without a layer of the file neither load gives a configuration. -/
theorem load_ne_ok {error : ConfigError} (h : lowest file = .error error) :
    load file environment overrides ≠ .ok c := by
  rw [load_of_error h]
  exact nofun

/-- **A configuration is loaded from its layers**, the higher ones before the lower ones. -/
theorem layered_load (file : Option (String × FileText)) (environment overrides : List (String × String)) :
    Layered file environment overrides where
  unread error := load_of_error
  loads_iff layer h := by
    simp only [load_eq_ok_iff h, exists_and_left, Layer.exists_finish_iff, Layer.get_ofValues]
    refine and_congr_left' ⟨fun well name text mem => ?_, fun well pair mem => ?_⟩
    · exact well (name, text) (Layer.mem_prefixed.2 mem)
    · exact well pair.1 pair.2 (Layer.mem_prefixed.1 mem)
  value layer c h loaded s := by
    have values := (Layer.finish_eq_ok_iff.1 ((load_eq_ok_iff h).1 loaded).2.2).2 s
    rwa [Layer.get_ofValues] at values
  hidesFile file' layer layer' h h' same c := by
    refine load_congr h h' .rfl .rfl fun s => ?_
    unfold final?
    cases upper : s.last? overrides with
    | some v => rfl
    | none =>
      cases middle : s.last? (Layer.prefixed environment) with
      | some v => rfl
      | none => rw [same s upper middle]
  hidesEnvironment environment' well well' same c := by
    cases h : lowest file with
    | error error => exact iff_of_false (load_ne_ok h) (load_ne_ok h)
    | ok layer =>
      refine load_congr h h (iff_of_true well' well) .rfl fun s => ?_
      unfold final?
      cases upper : s.last? overrides with
      | some v => rfl
      | none => rw [same s upper]
  reordered environment' overrides' inEnvironment inOverrides c := by
    cases h : lowest file with
    | error error => exact iff_of_false (load_ne_ok h) (load_ne_ok h)
    | ok layer =>
      refine load_congr h h ?_ ?_ fun s => ?_
      · simp only [inEnvironment.perm.mem_iff]
      · simp only [inOverrides.perm.mem_iff]
      · rw [final?, Setting.last?_congr (inOverrides.each s), Setting.last?_congr (inEnvironment.each s), final?]

/-- A time of zero does no harm in the environment where the caller gives another. -/
example :
    (load none [("SPACEY_LOADER_HANDLER_TIMEOUT_MS", "0"), ("HOME", "/")]
      [("policy", " Prefer_Native"), ("handler-timeout-ms", "+5")]).toOption =
      some { policy := .preferNative, handlerTimeout := 5 } := by
  decide

end Config

end TypedImport
