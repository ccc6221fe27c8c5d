import TypedImport.Config.Load
import TypedImport.Source.Fetch

/-!
# Configuration files

Where the file layer of a configuration comes from: the path that the caller names, which must be
readable text, or the usual path, which counts only if there is a file.
-/

namespace TypedImport

/-- A path as one from the root: a relative one goes on from a directory. -/
def rootedPath (directory path : String) : String :=
  if isAbsolutePath path then path else directory ++ "/" ++ path

/-- **The text of a file**, its path taken from a directory. -/
def FileText.ofDisk (disk : Disk) (directory path : String) : FileText :=
  if path.isEmpty then .unreadable DiskFault.missing.message
  else
    match disk.read (Utf8.encode (rootedPath directory path)) with
    | .error fault => .unreadable fault.message
    | .ok bytes =>
      match Utf8.decodeChars bytes with
      | .ok s => .text s
      | .error _ => .unreadable "stream did not contain valid UTF-8"

def Disk.isFile (disk : Disk) (path : String) : Bool :=
  match disk.read (Utf8.encode path) with
  | .ok _ | .error .forbidden => true
  | .error _ => false

/-- **The file layer to read**: the path named, or the usual one if it is a file. -/
def Config.fileToRead (disk : Disk) (directory : String) (usual named : Option String) :
    Option (String × FileText) :=
  (named.or (usual.filter disk.isFile)).map fun path => (path, FileText.ofDisk disk directory path)

end TypedImport
