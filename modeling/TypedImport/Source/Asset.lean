import TypedImport.Digest.Sha256
import TypedImport.Handler.Encoding
import TypedImport.Handler.Native
import TypedImport.Source.Fetch
import TypedImport.Source.Media

/-!
# Assets

A fetched asset with all that a handler is told about it: its media type, the encoding it is to be read
in, its fingerprint, and whether the host has a handler for it.

**The encoding** is the one that the import asks for, or else the charset that came with the asset, or
else UTF-8 for text, or else none: plain bytes.
-/

namespace TypedImport

/-- **An asset.** -/
structure Asset where
  url : Url
  bytes : Bytes
  media : String
  encoding : Encoding
  fingerprint : String
  nativeAvailable : Bool

namespace Asset

/-- The media type of a fetched asset and the charset that came with it. A content type without a media
type counts for its charset only. -/
def mediaOf (url : Url) (contentType : Option String) : String × Option String :=
  match contentType with
  | some text =>
    let (media, charset) := Media.readContentType text
    (if media.isEmpty then Media.ofExtension url else media, charset)
  | none => (Media.ofExtension url, none)

/-- **The encoding of an asset.** -/
def chooseEncoding (requested charset : Option String) (media : String) : Encoding :=
  match requested, charset with
  | some label, _ => if Text.sameLetters label "blob" then .blob else .ofLabel label
  | none, some charset => .ofLabel charset
  | none, none => if Media.isTextual media then .ofLabel "utf-8" else .blob

/-- **The asset that was fetched for an import.** -/
def ofFetched (native : NativeMemo) (url : Url) (type : String) (requested : Option String)
    (fetched : Fetched) : Asset × NativeMemo :=
  let (media, charset) := mediaOf url fetched.contentType
  let (available, native) := native.supports type media
  ({ url := url
     bytes := fetched.bytes
     media := media
     encoding := chooseEncoding requested charset media
     fingerprint := TypedImport.fingerprint fetched.bytes
     nativeAvailable := available },
    native)

end Asset

end TypedImport
