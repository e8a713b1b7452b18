/-!
# Stretches of code points

A set of characters given by a list of stretches: every code point, or every second one, from a
first to a last.

## Main definitions

* `Stretch`: one stretch.
* `Stretch.covers`: whether a list of stretches holds a character.
-/

namespace ImageImports.Text

/-- The code points from `first` to `last`, `step` apart. -/
structure Stretch where
  first : Nat
  last : Nat
  step : Nat
  deriving DecidableEq, Repr

/-- A code point lies on a stretch. -/
def Stretch.contains (s : Stretch) (n : Nat) : Bool :=
  decide (s.first ≤ n) && decide (n ≤ s.last) && (n - s.first) % s.step == 0

/-- Some stretch of the list holds the character. -/
def Stretch.covers (stretches : List Stretch) (c : Char) : Bool :=
  stretches.any (·.contains c.toNat)

end ImageImports.Text
