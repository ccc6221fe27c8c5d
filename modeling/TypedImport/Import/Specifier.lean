import TypedImport.Import.Fault
import TypedImport.Url.FilePath

/-!
# Specifiers

A specifier is a URL, an absolute path, or relative to what refers to it.

**Drive letters.** A text such as `c:/x` reads as a URL whose scheme is one letter. It is not taken for
one here.
-/

namespace TypedImport.Specifier

/-- The URL that a specifier is by itself. -/
def absolute? (specifier : String) : Option Url :=
  match Url.parse specifier with
  | .ok url => if 1 < url.scheme.utf8ByteSize then some url else none
  | .error _ => none

/-- **The URL of a specifier**, relative to a referrer or else to a base. -/
def resolve (base referrer : Option Url) (specifier : String) : Except SpecifierFault Url :=
  if specifier.isEmpty then .error .empty
  else
    match absolute? specifier with
    | some url => .ok url
    | none =>
      if isAbsolutePath specifier then
        match Url.ofFilePath? specifier with
        | some url => .ok url
        | none => .error (.notAFileUrl specifier)
      else
        match referrer.or base with
        | none => .error (.noReferrer specifier)
        | some source =>
          match Url.join source specifier with
          | .ok url => .ok url
          | .error fault => .error (.invalid specifier fault)

end TypedImport.Specifier
