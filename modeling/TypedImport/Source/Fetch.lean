import TypedImport.Import.Fault
import TypedImport.Table
import TypedImport.Url.FilePath

/-!
# Fetching assets

Where the bytes of an asset come from: a store in memory, by URL, or files on a disk, by path.

**Failures.** What the system says of a failed read is kept in its words; only the kind decides whether
another try is worth while.
-/

namespace TypedImport

/-- **A fetched asset**: its bytes, and the content type if one came with them. -/
structure Fetched where
  bytes : Bytes
  contentType : Option String := none
  deriving DecidableEq, Repr

/-- The kind of failure that a system error of a name is. -/
def FetchFailureKind.ofSystem (name : String) : FetchFailureKind :=
  if name = "NotFound" then .notFound
  else if name = "PermissionDenied" then .permissionDenied
  else if ["Interrupted", "WouldBlock", "TimedOut", "ConnectionReset", "ConnectionAborted"].contains name
  then .transient
  else .fatal

/-- **Assets in memory.** -/
structure MemoryStore where
  assets : Table String Fetched := []
  /-- How many fetches there were. -/
  fetches : Nat := 0

namespace MemoryStore

def insert (store : MemoryStore) (url : Url) (asset : Fetched) : MemoryStore :=
  { store with assets := store.assets.put url.text asset }

/-- The store without the asset at a URL, and whether there was one. -/
def remove (store : MemoryStore) (url : Url) : Bool × MemoryStore :=
  (store.assets.has url.text, { store with assets := store.assets.erase url.text })

def find (store : MemoryStore) (url : Url) : Except FetchFailure Fetched :=
  match store.assets.get? url.text with
  | some asset => .ok asset
  | none => .error ⟨.notFound, url.text⟩

/-- **Fetches an asset.** -/
def fetch (store : MemoryStore) (url : Url) : Except FetchFailure Fetched × MemoryStore :=
  (store.find url, { store with fetches := store.fetches + 1 })

end MemoryStore

/-- **Why a file was not read.** -/
inductive DiskFault where
  | missing
  | notADirectory
  | isADirectory
  | nameTooLong
  /-- The file may not be read. -/
  | forbidden
  /-- The path holds a zero byte. -/
  | zeroByte
  deriving DecidableEq, Repr

namespace DiskFault

/-- What the system says. -/
def message : DiskFault → String
  | .missing => "No such file or directory (os error 2)"
  | .notADirectory => "Not a directory (os error 20)"
  | .isADirectory => "Is a directory (os error 21)"
  | .nameTooLong => "File name too long (os error 36)"
  | .forbidden => "Permission denied (os error 13)"
  | .zeroByte => "file name contained an unexpected NUL byte"

def failure : DiskFault → FetchFailure
  | .missing => ⟨.notFound, message .missing⟩
  | .forbidden => ⟨.permissionDenied, message .forbidden⟩
  | fault => ⟨.fatal, fault.message⟩

end DiskFault

/-- **What is at a place of a disk.** -/
inductive Disk.Item where
  | directory
  | file (content : Bytes)
  /-- A file that may not be read. -/
  | closed
  deriving DecidableEq, Repr

/-- **Files on a disk**, by the names from the root on. Everything above a place is a directory. -/
structure Disk where
  places : Table (List Bytes) Disk.Item := []

namespace Disk

def isDirectory (disk : Disk) (place : List Bytes) : Bool :=
  place.isEmpty || disk.places.any fun entry =>
    (entry.1 = place && entry.2 = .directory) || (place.isPrefixOf entry.1 && entry.1 ≠ place)

/-- Whether there is anything at a place. -/
def has (disk : Disk) (place : List Bytes) : Bool :=
  disk.isDirectory place || disk.places.has place

/-- The longest name of a file. -/
def nameLimit : Nat := 255

/-- The length from which on a path is too long. -/
def pathLimit : Nat := 4096

/-- Follows names from a place on. -/
def follow (disk : Disk) (place : List Bytes) : List Bytes → Except DiskFault (List Bytes)
  | [] => .ok place
  | name :: rest =>
    if !disk.isDirectory place then .error .notADirectory
    else if name.isEmpty || name = [0x2e] then disk.follow place rest
    else if name = [0x2e, 0x2e] then disk.follow place.dropLast rest
    else if nameLimit < name.length then .error .nameTooLong
    else
      let next := place ++ [name]
      if disk.has next then disk.follow next rest
      else .error .missing

/-- **Reads the file of an absolute path.** -/
def read (disk : Disk) (path : Bytes) : Except DiskFault Bytes :=
  if path.contains 0 then .error .zeroByte
  else if pathLimit ≤ path.length then .error .nameTooLong
  else
    match disk.follow [] (cutBytes path) with
    | .error fault => .error fault
    | .ok place =>
      match disk.places.get? place with
      | some (.file bytes) => .ok bytes
      | some .closed => .error .forbidden
      | some .directory | none => .error .isADirectory

/-- **Fetches the file that a URL stands for.** -/
def fetch (disk : Disk) (url : Url) : Except FetchFailure Fetched :=
  if url.scheme ≠ "file" then
    .error ⟨.fatal, "unsupported url scheme '" ++ url.scheme ++ "'"⟩
  else
    match url.toFilePath? with
    | none => .error ⟨.fatal, "not a local path: " ++ url.text⟩
    | some path =>
      match disk.read path with
      | .ok bytes => .ok ⟨bytes, none⟩
      | .error fault => .error fault.failure

def write (disk : Disk) (place : List Bytes) (item : Item) : Disk :=
  ⟨disk.places.put place item⟩

/-- The disk without what is at a place. Its directory stays. -/
def remove (disk : Disk) (place : List Bytes) : Disk :=
  let places := disk.places.erase place
  ⟨if place.length ≤ 1 then places else places.put place.dropLast .directory⟩

/-- The disk with an item where names lead from a place on, and directories all along the way. -/
def lay (disk : Disk) (place : List Bytes) (item : Item) : List Bytes → Disk
  | [] => disk.write place item
  | name :: rest =>
    let next := if name = [0x2e, 0x2e] then place.dropLast else place ++ [name]
    lay (disk.write place .directory) next item rest

/-- **The disk on which reading an absolute path gives a result**, as far as files tell it. -/
def recordRead (disk : Disk) (path : Bytes) (result : Except DiskFault Bytes) : Disk :=
  let names := byteComponents path
  match result with
  | .ok bytes => disk.lay [] (.file bytes) names
  | .error .isADirectory => disk.lay [] .directory names
  | .error .forbidden => disk.lay [] .closed names
  | .error .notADirectory => disk.lay [] (.file []) names.dropLast
  | .error _ => disk

end Disk

end TypedImport
