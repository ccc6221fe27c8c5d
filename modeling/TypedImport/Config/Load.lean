import TypedImport.Config.Basic
import TypedImport.Config.Document

/-!
# Loading a configuration

From a file, the environment and the caller, each over the one before. A file that the caller names must
be there; the file at the usual place is read only if there is one. Of the environment the variables
with the library's prefix count, and each must be a setting.
-/

namespace TypedImport

namespace Layer

/-- The prefix of environment variables that are settings. -/
def environmentPrefix : String := "SPACEY_LOADER_"

/-- A number of 64 bits. -/
def word64Of? : Toml → Option UInt64
  | .integer n => if 0 ≤ n then some (UInt64.ofNat n.toNat) else none
  | _ => none

/-- A number of 32 bits. -/
def word32Of? : Toml → Option UInt32
  | .integer n => if 0 ≤ n && n < Nat.pow 2 32 then some (UInt32.ofNat n.toNat) else none
  | _ => none

/-- A policy: its name, or a table whose one entry has that name and is empty. -/
def policyOf? : Toml → Option Policy
  | .string s => Policy.ofName? s
  | .table _ [(name, .table _ [])] => Policy.ofName? name
  | .table _ [(name, .array [])] => Policy.ofName? name
  | _ => none

/-- The layer with the field of an entry written. -/
def put? (layer : Layer) (setting : Setting) (v : Toml) : Option Layer :=
  match setting with
  | .policy => (policyOf? v).map fun p => { layer with policy := some p }
  | .handlerTimeout => (word64Of? v).map fun n => { layer with handlerTimeout := some n }
  | .loadRetries => (word32Of? v).map fun n => { layer with loadRetries := some n }
  | .retryBackoff => (word64Of? v).map fun n => { layer with retryBackoff := some n }
  | .maxBackoff => (word64Of? v).map fun n => { layer with maxBackoff := some n }

/-- The layer that entries make: each has exactly the key of a setting. -/
def ofEntries? (layer : Layer) : List (String × Toml) → Option Layer
  | [] => some layer
  | (key, v) :: rest => do
    let setting ← Setting.ofKey? key
    let layer ← layer.put? setting v
    ofEntries? layer rest

/-- **The layer of a document.** -/
def ofDocument? (text : List Char) : Option Layer := do
  ofEntries? {} (← Toml.read? text)

/-- A name without a prefix, if it begins with it. -/
def dropPrefix? (start name : String) : Option String :=
  if start.toList.isPrefixOf name.toList then some (String.ofList (name.toList.drop start.length))
  else none

/-- The settings of an environment: variables with the prefix, in lowercase without it. -/
def ofEnvironment (environment : List (String × String)) : List (String × String) :=
  environment.filterMap fun (name, value) =>
    (dropPrefix? environmentPrefix name).map fun key => (Text.lower key, value)

end Layer

/-- **What reading a file gives.** -/
inductive FileText where
  | text (s : List Char)
  /-- What the system says instead. -/
  | unreadable (cause : String)

namespace Config

def fileLayer (path : String) : FileText → Except ConfigError Layer
  | .unreadable cause => .error (.unreadable path cause)
  | .text s =>
    match Layer.ofDocument? s with
    | some layer => .ok layer
    | none => .error (.malformed path)

/-- **The configuration of a document that stands for itself.** -/
def ofDocument (s : List Char) : Except ConfigError Config :=
  match Layer.ofDocument? s with
  | some layer => layer.finish
  | none => .error (.malformed "<inline>")

/-- **The configuration of all layers**: a file if there is one to read, given with its path, then the
environment, then the settings of the caller. -/
def load (file : Option (String × FileText)) (environment overrides : List (String × String)) :
    Except ConfigError Config := do
  let layer ← match file with
    | none => .ok {}
    | some (path, text) => (fileLayer path text).map fun layer => layer.onto {}
  let layer ← layer.setAll (Layer.ofEnvironment environment)
  let layer ← layer.setAll overrides
  layer.finish

end Config

end TypedImport
