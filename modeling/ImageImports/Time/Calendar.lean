import ImageImports.Duration

/-!
# Dates and instants

The Gregorian calendar, counted in days from the first of January 1970, and instants in
nanoseconds from the start of that day.

## Main definitions

* `Date`: a year, a month and a day.
* `Date.isValid`: the day exists.
* `Date.dayNumber`: days since the first of January 1970.
* `Instant`: a point in time.
* `Instant.timeTo`: the time from one instant to another, or none at all.
-/

namespace ImageImports

/-- A day of the calendar. Months and days count from one. -/
structure Date where
  year : Nat
  month : Nat
  day : Nat
  deriving DecidableEq, Repr

namespace Date

/-- A year with a leap day. -/
def isLeapYear (year : Nat) : Bool := year % 4 == 0 && (year % 100 != 0 || year % 400 == 0)

/-- The lengths of the months of a year. -/
def monthLengths (year : Nat) : List Nat :=
  [31, if isLeapYear year then 29 else 28, 31, 30, 31, 30, 31, 31, 30, 31, 30, 31]

/-- The day exists. -/
def isValid (d : Date) : Bool :=
  1 ≤ d.month && 1 ≤ d.day && ((monthLengths d.year)[d.month - 1]?).any (d.day ≤ ·)

/-- The number of leap years before a year, from the year zero on. -/
def leapYearsBefore (year : Nat) : Nat :=
  match year with
  | 0 => 0
  | y + 1 => y / 4 - y / 100 + y / 400 + 1

/-- The days from the start of the year zero to the start of 1970. -/
def daysBeforeEpoch : Nat := 719528

/-- Days since the first of January 1970. -/
def dayNumber (d : Date) : Int :=
  let months := ((monthLengths d.year).take (d.month - 1)).foldr (· + ·) 0
  (365 * d.year + leapYearsBefore d.year + months + (d.day - 1) : Nat) - (daysBeforeEpoch : Int)

/-- The day of the week, from Monday as zero. -/
def weekday (d : Date) : Nat := ((d.dayNumber + 3) % 7).toNat

end Date

/-- A point in time, in nanoseconds since the start of 1970. -/
structure Instant where
  nanos : Int
  deriving DecidableEq, Repr

namespace Instant

/-- The instant of a day and a number of seconds of that day. -/
def ofDay (day : Int) (seconds : Int) : Instant := ⟨(day * 86400 + seconds) * 1000000000⟩

/-- The time from one instant to another; none when the other has passed. -/
def timeTo (now later : Instant) : Duration := ⟨(later.nanos - now.nanos).toNat⟩

end Instant

end ImageImports
