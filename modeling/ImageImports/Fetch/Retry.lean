import ImageImports.Fetch.Policy
import ImageImports.Fetch.Transport
import ImageImports.RetryAfter
import ImageImports.Warning

/-!
# Retries

A fetch makes its request again until the answer is not one to retry on, or the retries are used
up. Between two attempts it waits: as long as the server asks for, or else as long as the policy
says. A limit in time cuts a fetch wherever it is.

The number of an attempt has 32 bits. A build that checks for overflows panics where it would need
a larger number, and with that the fetch is over. A build that does not check starts again at zero
and goes on. Such a fetch may have no end, so it is told by its first attempts. Up to the overflow
the two builds do the same, and only a policy with as many retries as the 32 bits hold lets a fetch
come that far. Unless a definition says otherwise it is about a build that checks.

## Main definitions

* `Fetcher`: a transport, a policy and a clock.
* `Fetch.Verdict`: what follows from the outcome of an attempt.
* `Fetcher.attempt`: one attempt, and what comes after it.
* `Fetch.Run`: the attempts of a fetch, when they start, and how the fetch ends.
* `Fetcher.fetch`: the run of a fetch.
* `Fetcher.wrapping`: the first attempts of a fetch in a build that does not check for overflows.
-/

namespace ImageImports

/-- What a fetch depends on apart from its URL. The clock gives the instant of each time. -/
structure Fetcher where
  transport : Transport
  policy : RetryPolicy
  clock : Duration → Instant

namespace Fetch

/-- What follows from the outcome of an attempt: the end, or a wait before the next attempt. -/
inductive Verdict where
  | stop (result : Except FetchError Response) (warnings : List Warning)
  | wait (time : Duration)

/-- How a fetch ends: with a result, by its limit, or by a panic where the number of an attempt
overflows. -/
inductive Ending where
  | answered (result : Except FetchError Response)
  | cut
  | panicked

/-- A fetch from its start: when each attempt starts, when the fetch ends, and how. -/
structure Run where
  starts : List Duration
  finish : Duration
  ending : Ending
  warnings : List Warning

/-- The largest number that an attempt can have. -/
def attemptLimit : Nat := Nat.pow 2 32 - 1

/-- The number of an attempt when as many were made before it, in 32 bits that start again at zero
after the largest one. -/
def wrapped (made : Nat) : Nat := (made + 1) % (attemptLimit + 1)

/-- A time past a limit. -/
def isPast (limit : Option Duration) (time : Duration) : Bool :=
  limit.any fun last => last.nanos < time.nanos

/-- What comes after an attempt: the end of the fetch, or the next attempt at its time. -/
inductive Next where
  | stop (finish : Duration) (ending : Ending) (warnings : List Warning)
  | again (start : Duration)

/-- The run that ends with an attempt. -/
def Run.single (start finish : Duration) (ending : Ending) (warnings : List Warning) : Run :=
  ⟨[start], finish, ending, warnings⟩

/-- A run with one attempt more at its start. -/
def Run.after (start : Duration) (r : Run) : Run := { r with starts := start :: r.starts }

/-- The first attempts of a fetch: when each starts, and how the fetch ends if it ends with them. -/
structure Opening where
  starts : List Duration
  ending : Option Ending

/-- An opening with one attempt more at its start. -/
def Opening.after (start : Duration) (o : Opening) : Opening :=
  { o with starts := start :: o.starts }

end Fetch

namespace Fetcher

open Fetch

/-- The error of a fetch that has used up its retries. -/
def exhausted (url : Url) (attempt : Nat) (lastStatus : Option Nat) : Verdict :=
  .stop (.error (.exhausted url.render attempt lastStatus)) [.retriesExhausted]

/-- The wait that a response asks for, or else that of the policy. -/
def waitAfter (f : Fetcher) (url : Url) (now : Instant) (attempt : Nat) (r : Response) : Verdict :=
  match r.header? "retry-after" with
  | none => .wait (f.policy.delay.after attempt)
  | some value =>
    match RetryAfter.wait? value now with
    | some time => .wait time
    | none => .stop (.error (.invalidRetryAfter url.render value)) []

/-- What follows from the outcome of an attempt. An unsupported URL is never tried again, and
every other error is. -/
def verdict (f : Fetcher) (url : Url) (now : Instant) (attempt : Nat) :
    Except FetchError Response → Verdict
  | .ok response =>
    if f.policy.shouldRetry response then
      if f.policy.retries.toNat < attempt then
        exhausted url attempt (some response.status.toNat)
      else f.waitAfter url now attempt response
    else .stop (.ok response) []
  | .error (.unsupported refused reason) => .stop (.error (.unsupported refused reason)) []
  | .error _ =>
    if f.policy.retries.toNat < attempt then exhausted url attempt none
    else .wait (f.policy.delay.after attempt)

/-- What comes after the attempt with a number that starts at a given time, when as many were made
before it. Whatever lies past the limit does not happen: the fetch ends at the limit. -/
def attemptNumbered (f : Fetcher) (url : Url) (asked : Nat) (limit : Option Duration)
    (number made : Nat) (start : Duration) : Next :=
  let reply := f.transport url (asked + made)
  let arrival := start + reply.stall
  if isPast limit arrival then .stop (limit.getD start) .cut []
  else
    match f.verdict url (f.clock arrival) number reply.outcome with
    | .stop result warnings => .stop arrival (.answered result) warnings
    | .wait time =>
      if isPast limit (arrival + time) then .stop (limit.getD start) .cut []
      else .again (arrival + time)

/-- What comes after an attempt whose number has not overflowed. -/
def attempt (f : Fetcher) (url : Url) (asked : Nat) (limit : Option Duration) (made : Nat)
    (start : Duration) : Next :=
  f.attemptNumbered url asked limit (made + 1) made start

/-- The run from an attempt on, when as many were made before it. The first number tells how many
attempts can still be counted, and where none can the build panics. -/
def attempts (f : Fetcher) (url : Url) (asked : Nat) (limit : Option Duration) :
    Nat → Nat → Duration → Run
  | 0, _, start => ⟨[], start, .panicked, []⟩
  | countable + 1, made, start =>
    match f.attempt url asked limit made start with
    | .stop finish ending warnings => .single start finish ending warnings
    | .again next => .after start (attempts f url asked limit countable (made + 1) next)

/-- The run of a fetch that starts at a given time, of a URL that was asked for before. With a
limit, what is due at that very time is still done. -/
def fetch (f : Fetcher) (url : Url) (asked : Nat) (start : Duration) (limit : Option Duration) :
    Run :=
  f.attempts url asked limit attemptLimit 0 start

/-- The attempts from one on, at most as many as the first number tells, in a build that does not
check for overflows. The second number tells how many were made before. -/
def wrappingFrom (f : Fetcher) (url : Url) (asked : Nat) (limit : Option Duration) :
    Nat → Nat → Duration → Opening
  | 0, _, _ => ⟨[], none⟩
  | more + 1, made, start =>
    match f.attemptNumbered url asked limit (wrapped made) made start with
    | .stop _ ending _ => ⟨[start], some ending⟩
    | .again next => .after start (wrappingFrom f url asked limit more (made + 1) next)

/-- The first attempts of a fetch, at most a given number of them, in a build that does not check
for overflows. -/
def wrapping (f : Fetcher) (url : Url) (asked : Nat) (start : Duration) (limit : Option Duration)
    (more : Nat) : Opening :=
  f.wrappingFrom url asked limit more 0 start

end Fetcher

end ImageImports
