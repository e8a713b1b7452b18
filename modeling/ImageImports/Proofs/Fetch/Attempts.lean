import ImageImports.Proofs.Fetch.Deadline
import Mathlib.Algebra.BigOperators.Group.Finset.Basic
import Mathlib.Order.Bounds.Defs

/-!
# The attempts of a fetch

A fetch without a limit in time is told by the replies alone. Were it never to end, each attempt
would start after the stall and the wait of the one before, so the replies give an endless table of
times. The fetch goes through that table up to the first reply that settles it, or up to the attempt
for which no retry is left, whichever comes first.

A reply settles a fetch in three ways: it is a response that calls for no retry, it refuses the URL,
or it calls for a retry after a wait that is not accepted. On the attempt for which no retry is left
the wait is not looked at, so there a response that calls for a retry has used up the retries
whatever it asks for.

Attempts are counted from zero here. The delay of a policy and the error of a fetch that was given
up count them from one.

## Main definitions

* `Response.Sends`: the first header of a name has a value.
* `Fetcher.Settles`: the outcomes that end a fetch however many retries are left.
* `Fetcher.Waits`: the wait that follows an outcome.
* `Fetcher.Answers`: the result of a fetch by the outcome of its last attempt.
* `Fetcher.startOf`, `Fetcher.arrivalOf`, `Fetcher.pauseOf`: the endless table of times.

## Main results

* `Fetcher.attempt_cases`: an attempt ends the fetch or leads to the next line of the table.
* `Fetcher.fetch_makes_attempts`: which attempts a fetch makes, when, and what comes of it.
-/

namespace ImageImports

/-! ### Headers -/

namespace Response

variable {r : Response} {name value : String}

/-- The first header with a name, however its letters are cased, has a value. -/
def Sends (r : Response) (name value : String) : Prop :=
  ∃ earlier known later, r.headers = earlier ++ (known, value) :: later ∧
    sameName known name = true ∧ ∀ header ∈ earlier, sameName header.1 name = false

theorem header?_eq_some_iff : r.header? name = some value ↔ r.Sends name value := by
  simp only [header?, Sends, Option.map_eq_some_iff, List.find?_eq_some_iff_append,
    Bool.not_eq_true']
  constructor
  · rintro ⟨⟨known, sent⟩, ⟨hknown, earlier, later, hheaders, hearlier⟩, rfl⟩
    exact ⟨earlier, known, later, hheaders, hknown, hearlier⟩
  · rintro ⟨earlier, known, later, hheaders, hknown, hearlier⟩
    exact ⟨(known, value), ⟨hknown, earlier, later, hheaders, hearlier⟩, rfl⟩

theorem header?_eq_none_iff : r.header? name = none ↔ ∀ value, ¬ r.Sends name value := by
  simp only [← header?_eq_some_iff, Option.eq_none_iff_forall_not_mem, Option.mem_def]

end Response

namespace Fetcher

open Fetch

/-! ### What an outcome means -/

section Outcomes

variable (f : Fetcher) (url : Url) (now : Instant) (number : Nat)

/-- The outcomes that end a fetch however many retries are left. -/
inductive Settles : Except FetchError Response → Prop
  | served {r : Response} (hretry : f.policy.shouldRetry r = false) : Settles (.ok r)
  | refused {refused reason : String} : Settles (.error (.unsupported refused reason))
  | misled {r : Response} {value : String} (hretry : f.policy.shouldRetry r = true)
      (hvalue : r.Sends "retry-after" value) (hwait : RetryAfter.wait? value now = none) :
      Settles (.ok r)

/-- The wait after the attempt with a given number: the one that the response asks for, or else
that of the policy. -/
inductive Waits : Except FetchError Response → Duration → Prop
  | asked {r : Response} {value : String} {time : Duration} (hvalue : r.Sends "retry-after" value)
      (hwait : RetryAfter.wait? value now = some time) : Waits (.ok r) time
  | silent {r : Response} (hvalue : ∀ value, ¬ r.Sends "retry-after" value) :
      Waits (.ok r) (f.policy.delay.after number)
  | failed {e : FetchError} : Waits (.error e) (f.policy.delay.after number)

/-- The result of a fetch whose last attempt has a given number. The retries are used up at the
number that follows theirs, and only before it can a wait be refused. -/
inductive Answers : Except FetchError Response → Except FetchError Response → Prop
  | served {r : Response} (hretry : f.policy.shouldRetry r = false) : Answers (.ok r) (.ok r)
  | refused {refused reason : String} :
      Answers (.error (.unsupported refused reason)) (.error (.unsupported refused reason))
  | exhausted {r : Response} (hretry : f.policy.shouldRetry r = true)
      (hnumber : number = f.policy.retries.toNat + 1) :
      Answers (.ok r) (.error (.exhausted url.render number (some r.status.toNat)))
  | failed {e : FetchError} (herror : ∀ refused reason, e ≠ .unsupported refused reason)
      (hnumber : number = f.policy.retries.toNat + 1) :
      Answers (.error e) (.error (.exhausted url.render number none))
  | misled {r : Response} {value : String} (hretry : f.policy.shouldRetry r = true)
      (hnumber : number ≤ f.policy.retries.toNat) (hvalue : r.Sends "retry-after" value)
      (hwait : RetryAfter.wait? value now = none) :
      Answers (.ok r) (.error (.invalidRetryAfter url.render value))

/-- The wait that follows an outcome, and none for an outcome that is followed by no wait. -/
def pause : Except FetchError Response → Duration
  | .ok r =>
    match r.header? "retry-after" with
    | some value => (RetryAfter.wait? value now).getD .zero
    | none => f.policy.delay.after number
  | .error _ => f.policy.delay.after number

end Outcomes

variable {f : Fetcher} (url : Url) (now : Instant) {number : Nat}

/-- A response that calls for a retry while there are retries left settles the fetch by a wait that
is refused, or is followed by a wait. -/
theorem waitAfter_cases {r : Response} (hretry : f.policy.shouldRetry r = true)
    (hnumber : number ≤ f.policy.retries.toNat) :
    (f.Settles now (.ok r) ∧ ∃ result, f.waitAfter url now number r = .stop result [] ∧
      f.Answers url now number (.ok r) result) ∨
    (¬ f.Settles now (.ok r) ∧ f.waitAfter url now number r = .wait (f.pause now number (.ok r)) ∧
      f.Waits now number (.ok r) (f.pause now number (.ok r))) := by
  have hserved : f.policy.shouldRetry r ≠ false := by simp [hretry]
  cases hheader : r.header? "retry-after" with
  | none =>
    have hvalue := Response.header?_eq_none_iff.mp hheader
    refine .inr ⟨?_, ?_, ?_⟩
    · rintro (hretry | - | ⟨-, hsent, -⟩)
      · exact hserved hretry
      · exact hvalue _ hsent
    · simp only [waitAfter, pause, hheader]
    · rw [show f.pause now number (.ok r) = f.policy.delay.after number by
        simp only [pause, hheader]]
      exact .silent hvalue
  | some value =>
    have hvalue := Response.header?_eq_some_iff.mp hheader
    cases hwait : RetryAfter.wait? value now with
    | none =>
      refine .inl ⟨.misled hretry hvalue hwait, _, ?_, .misled hretry hnumber hvalue hwait⟩
      simp only [waitAfter, hheader, hwait]
    | some time =>
      have hpause : f.pause now number (.ok r) = time := by
        simp only [pause, hheader, hwait, Option.getD_some]
      refine .inr ⟨?_, ?_, hpause ▸ .asked hvalue hwait⟩
      · rintro (hretry | - | ⟨-, hsent, hrefused⟩)
        · exact hserved hretry
        · rw [← Response.header?_eq_some_iff, hheader, Option.some_inj] at hsent
          rw [← hsent, hwait] at hrefused
          exact Option.some_ne_none _ hrefused
      · simp only [waitAfter, hheader, hwait, hpause]

/-- An outcome ends the fetch if it settles it or uses up the retries, and else a wait follows. -/
theorem verdict_cases (outcome : Except FetchError Response)
    (hnumber : number ≤ f.policy.retries.toNat + 1) :
    ((number = f.policy.retries.toNat + 1 ∨ f.Settles now outcome) ∧
      ∃ result warnings, f.verdict url now number outcome = .stop result warnings ∧
        f.Answers url now number outcome result) ∨
    (¬ (number = f.policy.retries.toNat + 1 ∨ f.Settles now outcome) ∧
      f.verdict url now number outcome = .wait (f.pause now number outcome) ∧
      f.Waits now number outcome (f.pause now number outcome)) := by
  by_cases hlast : number = f.policy.retries.toNat + 1
  · have hexhausted : f.policy.retries.toNat < number := by omega
    refine .inl ⟨.inl hlast, ?_⟩
    unfold verdict
    split
    next r =>
      by_cases hretry : f.policy.shouldRetry r = true
      · rw [if_pos hretry, if_pos hexhausted]
        exact ⟨_, _, rfl, .exhausted hretry hlast⟩
      · rw [if_neg hretry]
        exact ⟨_, _, rfl, .served (Bool.eq_false_iff.mpr hretry)⟩
    next => exact ⟨_, _, rfl, .refused⟩
    next e herror =>
      rw [if_pos hexhausted]
      exact ⟨_, _, rfl, .failed (fun refused reason => herror refused reason) hlast⟩
  · have hleft : ¬ f.policy.retries.toNat < number := by omega
    simp only [hlast, false_or]
    unfold verdict
    split
    next r =>
      by_cases hretry : f.policy.shouldRetry r = true
      · rw [if_pos hretry, if_neg hleft]
        obtain ⟨hsettles, result, hverdict, hanswers⟩ | ⟨hsettles, hverdict, hwaits⟩ :=
          waitAfter_cases url now hretry (show number ≤ _ by omega)
        · exact .inl ⟨hsettles, result, [], hverdict, hanswers⟩
        · exact .inr ⟨hsettles, hverdict, hwaits⟩
      · have hserved := Bool.eq_false_iff.mpr hretry
        rw [if_neg hretry]
        exact .inl ⟨.served hserved, _, _, rfl, .served hserved⟩
    next => exact .inl ⟨.refused, _, _, rfl, .refused⟩
    next e herror =>
      rw [if_neg hleft]
      refine .inr ⟨?_, rfl, .failed⟩
      rintro (- | -)
      exact herror _ _ rfl

/-! ### The table of times -/

section Table

variable (f : Fetcher) (url : Url) (asked : Nat) (start : Duration)

/-- The start of each attempt, were the fetch never to end. -/
def startOf : Nat → Duration
  | 0 => start
  | made + 1 =>
    let reply := f.transport url (asked + made)
    let arrival := startOf made + reply.stall
    arrival + f.pause (f.clock arrival) (made + 1) reply.outcome

/-- The outcome of each attempt. -/
def outcomeOf (made : Nat) : Except FetchError Response :=
  (f.transport url (asked + made)).outcome

/-- The time from the start of each attempt to its outcome. -/
def stallOf (made : Nat) : Duration := (f.transport url (asked + made)).stall

/-- The time at which the outcome of each attempt is there. -/
def arrivalOf (made : Nat) : Duration := f.startOf url asked start made + f.stallOf url asked made

/-- The instant at which the outcome of each attempt is there. -/
def instantOf (made : Nat) : Instant := f.clock (f.arrivalOf url asked start made)

/-- The wait after each attempt. -/
def pauseOf (made : Nat) : Duration :=
  f.pause (f.instantOf url asked start made) (made + 1) (f.outcomeOf url asked made)

end Table

variable {url} {asked : Nat} {start : Duration} {made : Nat}

theorem startOf_succ : f.startOf url asked start (made + 1) =
    f.arrivalOf url asked start made + f.pauseOf url asked start made := rfl

theorem nanos_startOf (made : Nat) : (f.startOf url asked start made).nanos =
    start.nanos + ∑ i ∈ Finset.range made, (f.stallOf url asked i).nanos +
      ∑ i ∈ Finset.range made, (f.pauseOf url asked start i).nanos := by
  induction made with
  | zero => simp [startOf]
  | succ made ih =>
    rw [startOf_succ, arrivalOf, Duration.nanos_add, Duration.nanos_add, ih,
      Finset.sum_range_succ, Finset.sum_range_succ]
    omega

/-! ### The run of a fetch -/

variable (f url asked start) in
/-- The attempt at which a fetch ends: no retry is left, or the outcome settles it. -/
def EndsAt (made : Nat) : Prop :=
  made = f.policy.retries.toNat ∨
    f.Settles (f.instantOf url asked start made) (f.outcomeOf url asked made)

variable (url asked start) in
/-- An attempt for which there are retries enough ends the fetch, or the next line of the table
follows. -/
theorem attempt_cases (hmade : made ≤ f.policy.retries.toNat) :
    (f.EndsAt url asked start made ∧ ∃ result warnings,
      f.attempt url asked none made (f.startOf url asked start made) =
        .stop (f.arrivalOf url asked start made) (.answered result) warnings ∧
      f.Answers url (f.instantOf url asked start made) (made + 1) (f.outcomeOf url asked made)
        result) ∨
    (¬ f.EndsAt url asked start made ∧
      f.attempt url asked none made (f.startOf url asked start made) =
        .again (f.startOf url asked start (made + 1)) ∧
      f.Waits (f.instantOf url asked start made) (made + 1) (f.outcomeOf url asked made)
        (f.pauseOf url asked start made)) := by
  have hends : f.EndsAt url asked start made ↔ made + 1 = f.policy.retries.toNat + 1 ∨
      f.Settles (f.instantOf url asked start made) (f.outcomeOf url asked made) := by
    rw [EndsAt, Nat.add_right_cancel_iff]
  rw [hends]
  obtain ⟨hstops, result, warnings, hverdict, hanswers⟩ | ⟨hstops, hverdict, hwaits⟩ :=
    verdict_cases url (f.instantOf url asked start made) (f.outcomeOf url asked made)
      (Nat.succ_le_succ hmade)
  · exact .inl ⟨hstops, result, warnings, attempt_of_stop rfl hverdict, hanswers⟩
  · exact .inr ⟨hstops, attempt_of_wait rfl hverdict, hwaits⟩

variable (url asked start) in
/-- From an attempt on that the fetch comes to, it goes through the table up to the first attempt
at which it ends, if the attempts up to the last retry can be counted. -/
theorem attempts_follow_table {countable : Nat} (hmade : made ≤ f.policy.retries.toNat)
    (hcountable : f.policy.retries.toNat < made + countable) :
    ∃ more result, (∀ i < more, ¬ f.EndsAt url asked start (made + i)) ∧
      f.EndsAt url asked start (made + more) ∧
      (f.attempts url asked none countable made (f.startOf url asked start made)).starts =
        (List.range' made (more + 1)).map (f.startOf url asked start) ∧
      (f.attempts url asked none countable made (f.startOf url asked start made)).finish =
        f.arrivalOf url asked start (made + more) ∧
      (f.attempts url asked none countable made (f.startOf url asked start made)).ending =
        .answered result ∧
      f.Answers url (f.instantOf url asked start (made + more)) (made + more + 1)
        (f.outcomeOf url asked (made + more)) result ∧
      ∀ i < more, f.Waits (f.instantOf url asked start (made + i)) (made + i + 1)
        (f.outcomeOf url asked (made + i)) (f.pauseOf url asked start (made + i)) := by
  induction countable generalizing made with
  | zero => omega
  | succ countable ih =>
    rw [attempts]
    obtain ⟨hends, result, warnings, hattempt, hanswers⟩ | ⟨hends, hattempt, hwaits⟩ :=
      attempt_cases url asked start hmade
    · rw [hattempt]
      exact ⟨0, result, by simp, hends, rfl, rfl, rfl, hanswers, by simp⟩
    · -- A fetch that goes on has a retry left, so the next attempt is one it may make.
      have hnext : made + 1 ≤ f.policy.retries.toNat := by
        have : made ≠ f.policy.retries.toNat := fun h => hends (.inl h)
        omega
      obtain ⟨more, result, hbefore, hlast, hstarts, hfinish, hending, hanswers, hpauses⟩ :=
        ih hnext (by omega)
      rw [hattempt]
      have hshift : ∀ i, made + (i + 1) = made + 1 + i := by omega
      refine ⟨more + 1, result, ?_, ?_, ?_, ?_, hending, ?_, ?_⟩
      · rintro (- | i) hi
        · exact hends
        · rw [hshift i]
          exact hbefore i (by omega)
      · rwa [hshift more]
      · rw [List.range'_succ, List.map_cons]
        exact congrArg _ hstarts
      · rwa [hshift more]
      · rwa [hshift more]
      · rintro (- | i) hi
        · exact hwaits
        · rw [hshift i]
          exact hpauses i (by omega)

/-- A fetch ends at the first attempt for which no retry is left or whose outcome settles it. It
makes exactly the attempts up to that one, each after the stall and the wait of the one before, and
no wait follows the last. The result is read off the outcome of the last attempt, and the waits are
those that the responses ask for, or else those of the policy. -/
theorem fetch_makes_attempts (f : Fetcher) (url : Url) (asked : Nat) (start : Duration)
    (hretries : f.policy.retries.toNat < 2 ^ 32 - 1) :
    ∃ last result, IsLeast {made | f.EndsAt url asked start made} last ∧
      (f.fetch url asked start none).starts =
        (List.range (last + 1)).map (f.startOf url asked start) ∧
      (f.fetch url asked start none).ending = .answered result ∧
      f.Answers url (f.instantOf url asked start last) (last + 1) (f.outcomeOf url asked last)
        result ∧
      (∀ made < last, f.Waits (f.instantOf url asked start made) (made + 1)
        (f.outcomeOf url asked made) (f.pauseOf url asked start made)) ∧
      (f.fetch url asked start none).finish.nanos = start.nanos +
        ∑ made ∈ Finset.range (last + 1), (f.stallOf url asked made).nanos +
        ∑ made ∈ Finset.range last, (f.pauseOf url asked start made).nanos := by
  obtain ⟨last, result, hbefore, hlast, hstarts, hfinish, hending, hanswers, hpauses⟩ :=
    attempts_follow_table url asked start (Nat.zero_le f.policy.retries.toNat)
      (show f.policy.retries.toNat < 0 + attemptLimit by rw [attemptLimit]; omega)
  simp only [Nat.zero_add] at hbefore hlast hfinish hanswers hpauses
  refine ⟨last, result, ⟨hlast, ?_⟩, ?_, hending, hanswers, hpauses, ?_⟩
  · intro made hmade
    exact Nat.le_of_not_lt fun hlt => hbefore made hlt hmade
  · rw [List.range_eq_range']
    exact hstarts
  · rw [fetch]
    refine (congrArg Duration.nanos hfinish).trans ?_
    rw [arrivalOf, Duration.nanos_add, nanos_startOf, Finset.sum_range_succ]
    omega

/-- A fetcher that retries twice and waits one second more after each attempt. The connection is
lost first. Then the server asks for a wait of three seconds, and at last for one that nobody
understands. -/
def overloaded : Fetcher where
  transport := fun url asked =>
    match asked with
    | 0 => ⟨.zero, .error (.transport url.render "connection reset")⟩
    | 1 => ⟨.ofSeconds 1, .ok ⟨503, [("Retry-After", "3")], none⟩⟩
    | _ => ⟨.ofSeconds 1, .ok ⟨503, [("retry-AFTER", "soon")], none⟩⟩
  policy := .ofStatuses 2 (.backoff .ofSeconds) [503]
  clock := fun time => ⟨time.nanos⟩

/-- The third attempt is the last one. It has no retry left, so the retries are used up whatever
its response asks for. -/
theorem fetch_makes_attempts_overloaded :
    let url : Url := ⟨"https", none, "/cat.png", none, none⟩
    let r := overloaded.fetch url 0 .zero none
    overloaded.policy.retries.toNat < 2 ^ 32 - 1 ∧
      IsLeast {made | overloaded.EndsAt url 0 .zero made} 2 ∧
      r.starts = [.zero, .ofSeconds 1, .ofSeconds 5] ∧ r.finish = .ofSeconds 6 ∧
      r.ending = .answered (.error (.exhausted url.render 3 (some 503))) := by
  intro url r
  have hretries : overloaded.policy.retries.toNat < 2 ^ 32 - 1 := by decide
  have hstarts : r.starts = [.zero, .ofSeconds 1, .ofSeconds 5] := by decide +kernel
  have hfinish : r.finish = .ofSeconds 6 := by decide +kernel
  obtain ⟨last, result, hleast, hmade, hending, hanswers, -⟩ :=
    fetch_makes_attempts overloaded url 0 .zero hretries
  obtain rfl : last = 2 := by
    have hlength := congrArg List.length (hmade.symm.trans hstarts)
    simpa using hlength
  refine ⟨hretries, hleast, hstarts, hfinish, hending.trans ?_⟩
  -- The outcome is a response that calls for a retry, and no retry is left.
  generalize houtcome : overloaded.outcomeOf url 0 2 = outcome at hanswers
  cases hanswers with
  | served hretry =>
    obtain rfl := Except.ok.inj houtcome
    cases hretry
  | refused => cases houtcome
  | exhausted hretry hnumber =>
    obtain rfl := Except.ok.inj houtcome
    rfl
  | failed herror hnumber => cases houtcome
  | misled hretry hnumber hvalue hwait => exact absurd hnumber (by decide)

end Fetcher

end ImageImports
