import ImageImports.Bytes.Sha256
import ImageImports.Bytes.Hex
import ImageImports.Bytes.Base64Url

/-!
# Content addresses

The name of a byte string: its SHA-256 digest, spelled in one of two alphabets that are safe in
file names.

## Main definitions

* `HashEncoding`: how a digest is spelled.
* `contentHash`: the content address of a byte string.
-/

namespace ImageImports

/-- How a digest is spelled in file names. -/
inductive HashEncoding where
  | hex
  | base64url
  deriving DecidableEq, Repr

/-- The spelling of a digest. -/
def HashEncoding.spell : HashEncoding → Digest → String
  | .hex, d => Hex.encode d.toList
  | .base64url, d => Base64Url.encode d.toList

/-- The content address of a byte string. -/
def contentHash (bytes : ByteArray) (encoding : HashEncoding) : String :=
  encoding.spell (Sha256.digest bytes)

end ImageImports
