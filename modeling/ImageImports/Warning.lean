/-!
# Warnings

What a host is warned of while the work goes on.

## Main definitions

* `Warning`: a cause of concern that is no error.
* `Warning.message`: its wording.
-/

namespace ImageImports

/-- A cause of concern that is no error: a cache that may not be served, a fetch that was given
up, and imports that a script cannot hold. -/
inductive Warning where
  | outsidePublic
  | retriesExhausted
  | importsDropped
  deriving DecidableEq, Repr

/-- The wording of a warning. -/
def Warning.message : Warning → String
  | .outsidePublic =>
    "cacheDirectory is not under public/; bundlers may not serve the cached images"
  | .retriesExhausted => "Retries exhausted"
  | .importsDropped => "Dropping imports for a script"

end ImageImports
