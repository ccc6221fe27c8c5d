import TypedImport.Source.Fetch

/-!
# Feeds

What a loader fetches its assets from: files, or a store in memory that can be told to fail and to keep
a fetch waiting.
-/

namespace TypedImport

/-- **Where assets are fetched from.** -/
inductive Feed where
  | disk (files : Disk)
  /-- A store, the failures that come before its answers, and the gates that fetches wait for, both by
  URL. -/
  | memory (store : MemoryStore) (failures : Table String (List FetchFailure))
      (gates : Table String String)

namespace Feed

/-- The gate that a fetch of a URL waits for. -/
def gate? (feed : Feed) (url : Url) : Option String :=
  match feed with
  | .disk _ => none
  | .memory _ _ gates => gates.get? url.text

/-- **Fetches an asset.** A failure that comes before the answer leaves the store alone. -/
def fetch (feed : Feed) (url : Url) : Except FetchFailure Fetched × Feed :=
  match feed with
  | .disk files => (files.fetch url, .disk files)
  | .memory store failures gates =>
    match failures.get? url.text with
    | some (failure :: rest) => (.error failure, .memory store (failures.put url.text rest) gates)
    | _ =>
      let (result, store) := store.fetch url
      (result, .memory store failures gates)

/-- How many fetches the store has answered. -/
def fetches : Feed → Nat
  | .disk _ => 0
  | .memory store _ _ => store.fetches

/-- The feed with its store changed. -/
def mapStore (f : MemoryStore → MemoryStore) : Feed → Feed
  | .disk files => .disk files
  | .memory store failures gates => .memory (f store) failures gates

/-- The feed with its disk changed. -/
def mapDisk (f : Disk → Disk) : Feed → Feed
  | .disk files => .disk (f files)
  | .memory store failures gates => .memory store failures gates

/-- Puts failures before the answers for a URL, after those that are there. -/
def addFailures (feed : Feed) (url : Url) (more : List FetchFailure) : Feed :=
  match feed with
  | .disk files => .disk files
  | .memory store failures gates =>
    .memory store (failures.put url.text ((failures.get? url.text).getD [] ++ more)) gates

/-- Lets the fetches of a URL wait for a gate. -/
def setGate (feed : Feed) (url : Url) (gate : String) : Feed :=
  match feed with
  | .disk files => .disk files
  | .memory store failures gates => .memory store failures (gates.put url.text gate)

end Feed

end TypedImport
