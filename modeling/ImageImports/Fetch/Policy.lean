import ImageImports.Duration
import ImageImports.Fetch.Response
import ImageImports.Options.Basic

/-!
# Retry policies

When a request is made again, how often, and after which wait.

## Main definitions

* `Delay`: the wait after an attempt for which the server asks for none.
* `RetryPolicy`: the number of retries, the delay, and the responses that call for a retry.
* `RetryPolicy.ofOptions`: the policy that a host configures.
* `RetryPolicy.render`: the policy as a text.
-/

namespace ImageImports

/-- The wait after an attempt: always the same, or by the number of attempts made so far. -/
inductive Delay where
  | fixed (time : Duration)
  | backoff (time : Nat → Duration)

/-- The wait after as many attempts; the first attempt is number one. -/
def Delay.after : Delay → Nat → Duration
  | .fixed time, _ => time
  | .backoff time, attempts => time attempts

/-- The text of a delay. A rule for the delay has no text of its own. -/
def Delay.render : Delay → String
  | .fixed time => s!"Fixed({time.render})"
  | .backoff _ => "Backoff(..)"

/-- When a request is made again. The retries are counted after the first attempt. -/
structure RetryPolicy where
  retries : UInt32
  delay : Delay
  shouldRetry : Response → Bool

namespace RetryPolicy

/-- A policy that retries on some statuses. -/
def ofStatuses (retries : UInt32) (delay : Delay) (statuses : List UInt16) : RetryPolicy :=
  ⟨retries, delay, fun r => statuses.contains r.status⟩

/-- The policy that a host configures. -/
def ofOptions (o : RetryOptions) : RetryPolicy :=
  ofStatuses o.retries (.fixed (.ofMillis o.delayMs.toNat)) o.statuses

/-- The text of a policy, which leaves out what calls for a retry. -/
def render (p : RetryPolicy) : String :=
  s!"RetryPolicy \x7b retries: {p.retries.toNat}, delay: {p.delay.render}, .. \x7d"

end RetryPolicy

end ImageImports
