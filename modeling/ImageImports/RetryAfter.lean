import ImageImports.Time.MailDate

/-!
# Retry-After

A server may ask for a wait before the next attempt: by a number of seconds, or by the date when
to come again. Waits beyond a limit are not accepted.

## Main definitions

* `RetryAfter.limit`: the longest wait, in seconds.
* `RetryAfter.wait?`: the wait that a value asks for.
-/

namespace ImageImports.RetryAfter

/-- The longest wait that is accepted, in seconds. -/
def limit : Nat := 10000

/-- A number of seconds: digits, perhaps after a plus sign. -/
def seconds? (cs : List Char) : Option Nat :=
  let digits := match cs with
    | '+' :: rest => rest
    | _ => cs
  if digits.isEmpty then none else Text.digitsValue? 10 digits

/-- A wait within the limit; of a fraction of a second beyond it nothing is made. -/
def accept (wait : Duration) : Option Duration :=
  if wait.seconds ≤ limit then some wait else none

/-- The wait that a value asks for at a given instant. A date that has passed asks for none. -/
def wait? (value : String) (now : Instant) : Option Duration :=
  let cs := Text.trim value.toList
  match seconds? cs with
  | some n => accept (.ofSeconds n)
  | none => (MailDate.read? cs).bind fun date => accept (now.timeTo date)

end ImageImports.RetryAfter
