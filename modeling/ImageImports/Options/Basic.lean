import ImageImports.ContentHash
import ImageImports.Path.Basic

/-!
# Options

What a host may configure, with the value that each option has when the host leaves it out.

## Main definitions

* `IdentifierStyle`: how the bindings of new imports are named.
* `RetryOptions`: how often and when a fetch is tried again.
* `Options`: all options.
-/

namespace ImageImports

/-- How the bindings of new imports are named: by counting, or by random digits. -/
inductive IdentifierStyle where
  | counter
  | uuid
  deriving DecidableEq, Repr

/-- The statuses after which a request is tried again. -/
def defaultRetryStatuses : List UInt16 := [408, 409, 429, 500, 502, 503, 504]

/-- How often a fetch is tried again, after which wait, and on which statuses. -/
structure RetryOptions where
  retries : UInt32 := 5
  delayMs : UInt64 := 500
  statuses : List UInt16 := defaultRetryStatuses
  deriving DecidableEq, Repr

/-- The configuration of a transform. The factory pattern is matched against imported names, and
the timeout bounds the resolution of one image. -/
structure Options where
  cacheDirectory : Option Path := none
  factoryPattern : String := "^jsxs?$"
  hashEncoding : HashEncoding := .hex
  identifiers : IdentifierStyle := .counter
  skipExisting : Bool := true
  timeoutMs : Option UInt64 := none
  retry : RetryOptions := {}
  deriving DecidableEq, Repr

namespace Options

/-- The options with nothing but a cache directory given. -/
def ofCacheDirectory (directory : Path) : Options := { cacheDirectory := some directory }

/-- The choices of a hash encoding and their names. -/
def encodingChoices : List (String × HashEncoding) := [("hex", .hex), ("base64url", .base64url)]

/-- The choices of an identifier style and their names. -/
def identifierChoices : List (String × IdentifierStyle) := [("counter", .counter), ("uuid", .uuid)]

end Options

end ImageImports
