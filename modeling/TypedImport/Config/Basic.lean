import TypedImport.Config.Policy
import TypedImport.Handler.Failure
import TypedImport.Number.Numeral

/-!
# Configuration

The settings of a loader: the fallback policy, how long a handler may work, how often a fetch is tried
again, and how long to wait before it is.

**Layers.** A layer sets some of the fields. Layers are put over one another, fields are set by name, and
only then is a configuration made: it needs a policy and a handler timeout that is not zero; every
other field has a default.
-/

namespace TypedImport

/-- **The settings of a loader.** Times are in milliseconds. -/
structure Config where
  policy : Policy
  handlerTimeout : UInt64 := 30000
  loadRetries : UInt32 := 3
  retryBackoff : UInt64 := 50
  maxBackoff : UInt64 := 2000
  deriving DecidableEq, Repr

/-- **Why there is no configuration.** -/
inductive ConfigError where
  /-- A file could not be read; `cause` is what the system says. -/
  | unreadable (path cause : String)
  /-- A file holds no configuration. -/
  | malformed (path : String)
  | invalidValue (key value : String)
  | unknownKey (key : String)
  | missingPolicy
  deriving DecidableEq, Repr

/-- The sentence that tells an error. What is wrong inside a malformed file is not told. -/
def ConfigError.message : ConfigError → String
  | .unreadable path cause => "Cannot read config file " ++ path ++ ": " ++ cause
  | .malformed path => "Invalid config file " ++ path
  | .invalidValue key value => "Invalid value for '" ++ key ++ "': " ++ value
  | .unknownKey key => "Unknown config key '" ++ key ++ "'"
  | .missingPolicy =>
    "No fallback policy configured: set 'fallback_policy' to one of registry-only, " ++
      "native-on-registry-miss, prefer-native"

/-- An error with what caused it. -/
def ConfigError.failure (e : ConfigError) : Failure :=
  match e with
  | .unreadable _ cause => ⟨e.message, [cause]⟩
  | e => ⟨e.message, []⟩

/-- **A setting.** -/
inductive Setting where
  | policy
  | handlerTimeout
  | loadRetries
  | retryBackoff
  | maxBackoff
  deriving DecidableEq, Repr

namespace Setting

def key : Setting → String
  | .policy => "fallback_policy"
  | .handlerTimeout => "handler_timeout_ms"
  | .loadRetries => "load_retries"
  | .retryBackoff => "retry_backoff_ms"
  | .maxBackoff => "max_backoff_ms"

def all : List Setting := [policy, handlerTimeout, loadRetries, retryBackoff, maxBackoff]

/-- The setting with exactly this key. -/
def ofKey? (key : String) : Option Setting :=
  all.find? fun s => s.key = key

/-- A key as it is looked up: trimmed, in lowercase, with underscores for hyphens. -/
def normalize (key : String) : String :=
  Text.replaceChar '-' '_' (Text.lower (Text.trim key))

/-- **The setting that a key names** once it is normalized; `policy` is a second name. -/
def ofName? (key : String) : Option Setting :=
  if key = "policy" then some .policy else ofKey? key

end Setting

/-- **Some of the settings.** -/
structure Layer where
  policy : Option Policy := none
  handlerTimeout : Option UInt64 := none
  loadRetries : Option UInt32 := none
  retryBackoff : Option UInt64 := none
  maxBackoff : Option UInt64 := none
  deriving DecidableEq, Repr

namespace Layer

/-- **One layer over another**: each field of the upper one counts if it is set. -/
def onto (upper lower : Layer) : Layer where
  policy := upper.policy.or lower.policy
  handlerTimeout := upper.handlerTimeout.or lower.handlerTimeout
  loadRetries := upper.loadRetries.or lower.loadRetries
  retryBackoff := upper.retryBackoff.or lower.retryBackoff
  maxBackoff := upper.maxBackoff.or lower.maxBackoff

/-- A number of 64 bits, blanks around it. -/
def word64? (value : String) : Option UInt64 :=
  (Number.natBelow? (Nat.pow 2 64) (Text.trimChars value.toList)).map UInt64.ofNat

/-- A number of 32 bits, blanks around it. -/
def word32? (value : String) : Option UInt32 :=
  (Number.natBelow? (Nat.pow 2 32) (Text.trimChars value.toList)).map UInt32.ofNat

/-- The layer with one field written, if the value is one for it. -/
def write? (layer : Layer) (setting : Setting) (value : String) : Option Layer :=
  match setting with
  | .policy => (Policy.read? value).map fun p => { layer with policy := some p }
  | .handlerTimeout => (word64? value).map fun n => { layer with handlerTimeout := some n }
  | .loadRetries => (word32? value).map fun n => { layer with loadRetries := some n }
  | .retryBackoff => (word64? value).map fun n => { layer with retryBackoff := some n }
  | .maxBackoff => (word64? value).map fun n => { layer with maxBackoff := some n }

/-- **Sets a field by name.** -/
def set (layer : Layer) (key value : String) : Except ConfigError Layer :=
  let key := Setting.normalize key
  match Setting.ofName? key with
  | none => .error (.unknownKey key)
  | some setting =>
    match layer.write? setting value with
    | some layer => .ok layer
    | none => .error (.invalidValue setting.key value)

/-- Sets fields by name, one after the other. -/
def setAll (layer : Layer) : List (String × String) → Except ConfigError Layer
  | [] => .ok layer
  | (key, value) :: rest =>
    match layer.set key value with
    | .ok layer => setAll layer rest
    | .error e => .error e

/-- **The configuration that a layer gives.** -/
def finish (layer : Layer) : Except ConfigError Config :=
  match layer.policy with
  | none => .error .missingPolicy
  | some policy =>
    if layer.handlerTimeout = some 0 then .error (.invalidValue Setting.handlerTimeout.key "0")
    else
      let base : Config := { policy := policy }
      .ok
        { policy := policy
          handlerTimeout := layer.handlerTimeout.getD base.handlerTimeout
          loadRetries := layer.loadRetries.getD base.loadRetries
          retryBackoff := layer.retryBackoff.getD base.retryBackoff
          maxBackoff := layer.maxBackoff.getD base.maxBackoff }

end Layer

namespace Config

/-- The layer that sets every field. -/
def toLayer (c : Config) : Layer where
  policy := some c.policy
  handlerTimeout := some c.handlerTimeout
  loadRetries := some c.loadRetries
  retryBackoff := some c.retryBackoff
  maxBackoff := some c.maxBackoff

/-- **Sets a field by name**, refusing a change that leaves no configuration. -/
def set (c : Config) (key value : String) : Except ConfigError Config :=
  match c.toLayer.set key value with
  | .ok layer => layer.finish
  | .error e => .error e

/-- The largest number of 64 bits. -/
def maxWord : UInt64 := 0xffffffffffffffff

/-- The product of two words, or the largest word if it does not fit. -/
def mulSaturating (a b : UInt64) : UInt64 :=
  if a.toNat * b.toNat < Nat.pow 2 64 then a * b else maxWord

/-- Two to a power, or the largest word if it does not fit. -/
def powerOfTwo (n : UInt32) : UInt64 :=
  if n < 64 then 1 <<< n.toUInt64 else maxWord

/-- **How long to wait** before the fetch after attempt number `attempt`, counted from 0: the first
wait, doubled with each attempt, and never longer than the longest. -/
def backoff (c : Config) (attempt : UInt32) : UInt64 :=
  min (mulSaturating c.retryBackoff (powerOfTwo attempt)) c.maxBackoff

end Config

end TypedImport
