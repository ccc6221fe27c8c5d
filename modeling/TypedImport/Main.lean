import TypedImport.CommandLine.Program

/-!
# Running the program

The outermost layer: the words of the command line, the environment and the files that a run may read
are brought in, the run is made, and what it leaves is written out.
-/

namespace TypedImport.CommandLine

/-- The bytes of the process's environment, or none where they cannot be read. -/
def environmentBytes : IO Bytes := do
  match ← (IO.FS.readBinFile "/proc/self/environ").toBaseIO with
  | .ok bytes => return bytes.toList
  | .error _ => return []

/-- The fault that a failed read stands for. -/
def diskFault : IO.Error → DiskFault
  | .permissionDenied .. => .forbidden
  | .inappropriateType _ code _ => if code = 21 then .isADirectory else .notADirectory
  | _ => .missing

def readFile (path : Bytes) : IO (Except DiskFault Bytes) := do
  match Utf8.decode path with
  | .error _ => return .error .missing
  | .ok path =>
    match ← (IO.FS.readBinFile path).toBaseIO with
    | .ok bytes => return .ok bytes.toList
    | .error e => return .error (diskFault e)

/-- Makes a run of the program. -/
def start (args : List String) : IO UInt32 := do
  let directory := (← IO.currentDir).toString
  let environment := environmentOf (← environmentBytes)
  let usual := usualConfig? environment
  let disk ← (filesToRead args directory usual).foldlM
    (fun disk path => return disk.recordRead path (← readFile path)) ({} : Disk)
  let outcome := run args ⟨disk, directory, usual, environment⟩
  for line in outcome.output do
    IO.println line
  for message in outcome.messages do
    IO.eprintln message.painted
  return outcome.exit

end TypedImport.CommandLine

def main (args : List String) : IO UInt32 :=
  TypedImport.CommandLine.start args
