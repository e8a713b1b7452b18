/-!
# Durations

A stretch of time in nanoseconds, and its text in the largest unit that gives a whole part.

## Main definitions

* `Duration`: a number of nanoseconds.
* `Duration.render`: the shortest decimal in seconds, milliseconds, microseconds or nanoseconds.
-/

namespace ImageImports

/-- A stretch of time. -/
structure Duration where
  nanos : Nat
  deriving DecidableEq, Repr, Inhabited

namespace Duration

/-- No time at all. -/
def zero : Duration := ⟨0⟩

/-- A whole number of milliseconds. -/
def ofMillis (n : Nat) : Duration := ⟨n * 1000000⟩

/-- A whole number of seconds. -/
def ofSeconds (n : Nat) : Duration := ⟨n * 1000000000⟩

/-- The whole seconds of a duration. -/
def seconds (d : Duration) : Nat := d.nanos / 1000000000

/-- The whole milliseconds of a duration. -/
def millis (d : Duration) : Nat := d.nanos / 1000000

/-- What is left of a duration after its whole seconds, in nanoseconds. -/
def subsecNanos (d : Duration) : Nat := d.nanos % 1000000000

/-- One duration after another. -/
def add (d e : Duration) : Duration := ⟨d.nanos + e.nanos⟩

instance : Add Duration := ⟨add⟩

@[simp] theorem nanos_add (d e : Duration) : (d + e).nanos = d.nanos + e.nanos := rfl

/-- The digits of a number, filled up with zeros on the left to a given width. -/
def paddedDigits (width n : Nat) : List Char :=
  let digits := Nat.toDigits 10 n
  List.replicate (width - digits.length) '0' ++ digits

/-- The decimal of a number of nanoseconds in a unit of `10 ^ places` nanoseconds: no more
places than needed, and no point when there are none. -/
def decimal (nanos places : Nat) : String :=
  let unit := Nat.pow 10 places
  let fraction := paddedDigits places (nanos % unit)
  let kept := (fraction.reverse.dropWhile (· == '0')).reverse
  String.ofList (Nat.toDigits 10 (nanos / unit) ++
    if nanos % unit = 0 then [] else '.' :: kept)

/-- The text of a duration in the largest unit that does not exceed it. -/
def render (d : Duration) : String :=
  if 1000000000 ≤ d.nanos then decimal d.nanos 9 ++ "s"
  else if 1000000 ≤ d.nanos then decimal d.nanos 6 ++ "ms"
  else if 1000 ≤ d.nanos then decimal d.nanos 3 ++ "µs"
  else decimal d.nanos 0 ++ "ns"

end Duration

end ImageImports
