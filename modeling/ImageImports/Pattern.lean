import ImageImports.Pattern.Read

/-!
# Patterns

A pattern picks names: it fits a name in which its regular expression occurs.

## Main definitions

* `Pattern`: a regular expression.
* `Pattern.ofText?`: the pattern that a text spells.
* `Pattern.fits`: the expression occurs in a name.
-/

namespace ImageImports

/-- A pattern for names. -/
structure Pattern where
  regex : Pattern.Regex

namespace Pattern

/-- The pattern that a text spells. -/
def ofText? (text : String) : Option Pattern := (readRegex? text).map .mk

/-- The expression of the pattern occurs in a name. -/
def fits (p : Pattern) (name : String) : Bool := p.regex.occursIn name

end Pattern

end ImageImports
