import ImageImports.Json.Literal
import ImageImports.Number.Shortest
import ImageImports.Text.Quoted

/-!
# Refused options

Why an options text is refused. Either it is no JSON text, or one of its values does not fit into
the place where it stands.

## Main definitions

* `Options.Found`: what stands in a place.
* `Options.Expected`: what a place has to hold.
* `OptionsError`: why a text is refused.
* `OptionsError.reason?`: the wording, for values that do not fit.
-/

namespace ImageImports

namespace Options

/-- A value, told as far as a reader of an error needs it. -/
inductive Found where
  | null
  | boolean (value : Bool)
  | integer (n : Int)
  | double (negative : Bool) (magnitude : Binary64)
  | text (value : String)
  | sequence
  | map
  deriving DecidableEq, Repr

/-- What a place has to hold. A number has a width in bits and no sign. -/
inductive Expected where
  | path
  | text
  | boolean
  | number (bits : Nat)
  | sequence
  | unit
  | variantName
  | options
  | retryOptions
  deriving DecidableEq, Repr

/-- The wording of a value. -/
def Found.describe : Found → String
  | .null => "null"
  | .boolean value => s!"boolean `{value}`"
  | .integer n => s!"integer `{n}`"
  | .double negative magnitude => s!"floating point `{Shortest.render negative magnitude}`"
  | .text value => s!"string {Text.quote value}"
  | .sequence => "sequence"
  | .map => "map"

/-- The wording of what a place has to hold. -/
def Expected.describe : Expected → String
  | .path => "path string"
  | .text => "a string"
  | .boolean => "a boolean"
  | .number bits => s!"u{bits}"
  | .sequence => "a sequence"
  | .unit => "unit"
  | .variantName => "variant identifier"
  | .options => "struct Options"
  | .retryOptions => "struct RetryOptions"

end Options

/-- Why an options text is refused: it is no JSON text, a value is of another type, a number is
too wide for its place, a choice is none of the known ones, or a member is given twice. -/
inductive OptionsError where
  | malformed
  | wrongType (found : Options.Found) (expected : Options.Expected)
  | outOfRange (n : Int) (bits : Nat)
  | unknownChoice (name : String) (known : List String)
  | duplicateMember (name : String)
  deriving DecidableEq, Repr

/-- The names of choices, as a sentence lists them. -/
def listChoices (known : List String) : String :=
  " or ".intercalate (known.map fun name => s!"`{name}`")

/-- The wording of a refusal. A text that is no JSON has none of its own. -/
def OptionsError.reason? : OptionsError → Option String
  | .malformed => none
  | .wrongType found expected =>
    some s!"invalid type: {found.describe}, expected {expected.describe}"
  | .outOfRange n bits =>
    some s!"invalid value: integer `{n}`, expected {(Options.Expected.number bits).describe}"
  | .unknownChoice name known =>
    some s!"unknown variant `{name}`, expected {listChoices known}"
  | .duplicateMember name => some s!"duplicate field `{name}`"

end ImageImports
