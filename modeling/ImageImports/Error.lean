import ImageImports.Duration
import ImageImports.Options.Error
import ImageImports.Path.Basic
import ImageImports.Text.Quoted

/-!
# Errors

Everything that can go wrong, as causes. The wording stands in one `message` function for each
type.

## Main definitions

* `FileError`: why a file operation fails.
* `FetchError`: why a fetch fails, after all its retries.
* `ConfigError`: why no transform can be set up.
* `TransformError`: why one document is left as it is.
-/

namespace ImageImports

/-- Why a file operation fails. -/
inductive FileError where
  | notFound
  | alreadyExists
  | notDirectory
  | isDirectory
  | nameTooLong
  | nulInName
  deriving DecidableEq, Repr

/-- The wording of a file error; all but the last carry the number of the cause. -/
def FileError.message : FileError → String
  | .notFound => "No such file or directory (os error 2)"
  | .alreadyExists => "File exists (os error 17)"
  | .notDirectory => "Not a directory (os error 20)"
  | .isDirectory => "Is a directory (os error 21)"
  | .nameTooLong => "File name too long (os error 36)"
  | .nulInName => "file name contained an unexpected NUL byte"

/-- Why a fetch fails. The URL is given in its normal spelling. -/
inductive FetchError where
  | transport (url message : String)
  | unsupported (url reason : String)
  | exhausted (url : String) (attempts : Nat) (lastStatus : Option Nat)
  | invalidRetryAfter (url value : String)
  deriving DecidableEq, Repr

/-- A status that may be absent. -/
def statusText : Option Nat → String
  | none => "None"
  | some status => s!"Some({status})"

/-- The wording of a fetch error. -/
def FetchError.message : FetchError → String
  | .transport url message => s!"request to {url} failed: {message}"
  | .unsupported url reason => s!"cannot fetch {url}: {reason}"
  | .exhausted url attempts last =>
    s!"gave up on {url} after {attempts} attempts (last status: {statusText last})"
  | .invalidRetryAfter url value =>
    s!"invalid Retry-After value {Text.quote value} from {url}"

/-- Why no transform can be set up. -/
inductive ConfigError where
  | missingCacheDirectory
  | cacheDirectory (path : Path) (cause : FileError)
  | invalidOptions (cause : OptionsError)
  | invalidFactoryPattern
  deriving DecidableEq, Repr

/-- The wording of a configuration error. Where a text has the wrong grammar there is none. -/
def ConfigError.message? : ConfigError → Option String
  | .missingCacheDirectory => some "cacheDirectory is required"
  | .cacheDirectory path cause =>
    some s!"cache directory {path.text} is not usable: {cause.message}"
  | .invalidOptions cause => cause.reason?.map fun reason => s!"invalid options: {reason}"
  | .invalidFactoryPattern => none

/-- Why one document is left as it is. -/
inductive TransformError where
  | documentState
  | workingDirectory (cause : FileError)
  | readFailed (path : Path) (cause : FileError)
  | fetchFailed (url reason : String)
  | fetchExhausted (url : String) (attempts : Nat)
  | invalidRetryAfter (url value : String)
  | writeFailed (path : Path) (cause : FileError)
  | timeout (reference : String) (after : Duration)
  | malformedMatch (detail : String)
  deriving DecidableEq, Repr

/-- The wording of a transform error. -/
def TransformError.message : TransformError → String
  | .documentState => "file history is empty for the source document"
  | .workingDirectory cause => s!"cannot resolve the working directory: {cause.message}"
  | .readFailed path cause => s!"failed to read {path.text}: {cause.message}"
  | .fetchFailed url reason => s!"failed to fetch {url}: {reason}"
  | .fetchExhausted url attempts =>
    s!"failed to fetch {url}: retries exhausted after {attempts} attempts"
  | .invalidRetryAfter url value =>
    s!"invalid Retry-After value {Text.quote value} from {url}"
  | .writeFailed path cause => s!"failed to write {path.text}: {cause.message}"
  | .timeout reference after => s!"resolving {reference} timed out after {after.render}"
  | .malformedMatch detail => s!"internal invariant violated: {detail}"

/-- The error of a document whose fetch failed. -/
def FetchError.toTransformError : FetchError → TransformError
  | .transport url message => .fetchFailed url message
  | .unsupported url reason => .fetchFailed url reason
  | .exhausted url attempts _ => .fetchExhausted url attempts
  | .invalidRetryAfter url value => .invalidRetryAfter url value

end ImageImports
