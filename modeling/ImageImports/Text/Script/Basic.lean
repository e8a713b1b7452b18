import ImageImports.Text.Stretch

/-!
# Scripts

A script is a set of characters with a name and shorter names.

## Main definitions

* `Script`: names in small letters, and the stretches of code points.
-/

namespace ImageImports.Text

/-- A script: its names in small letters without separators, and its characters. -/
structure Script where
  names : List String
  stretches : List Stretch
  deriving DecidableEq, Repr

end ImageImports.Text
