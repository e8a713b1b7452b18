import ImageImports.Bytes.Hex

/-!
# Random identifiers

Sixteen bytes that are drawn at random where a name has to be unlike every other one. The draws
are an input of whatever needs them.

## Main definitions

* `Uuid`: sixteen bytes.
* `Uuid.digits`: their thirty-two hexadecimal digits.
-/

namespace ImageImports

/-- A random identifier. -/
structure Uuid where
  bytes : Vector UInt8 16
  deriving DecidableEq

/-- The digits of an identifier. -/
def Uuid.digits (u : Uuid) : String := Hex.encode u.bytes.toList

end ImageImports
