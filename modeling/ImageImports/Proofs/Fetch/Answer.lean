import ImageImports.Fetch.Retry

/-!
# The answer of a fetch

A fetch that gives a response gives the one that its last request was answered with. That response
calls for no retry, and none of the earlier ones is seen again.

## Main results

* `Fetcher.verdict_eq_stop_ok_iff`: the outcomes that end a fetch with a response.
* `Fetcher.outcome_of_answered`: the response of a fetch is that of its last request.
-/

namespace ImageImports.Fetcher

open Fetch

variable {f : Fetcher} {url : Url} {asked : Nat} {limit : Option Duration} {response : Response}

/-- An attempt ends a fetch with a response if that is its outcome and calls for no retry. -/
theorem verdict_eq_stop_ok_iff {now : Instant} {attempt : Nat}
    {outcome : Except FetchError Response} {warnings : List Warning} :
    f.verdict url now attempt outcome = .stop (.ok response) warnings ↔
      outcome = .ok response ∧ f.policy.shouldRetry response = false ∧ warnings = [] := by
  constructor
  · intro h
    unfold verdict at h
    split at h
    next found =>
      by_cases hretry : f.policy.shouldRetry found = true
      · rw [if_pos hretry] at h
        split at h
        · cases h
        · unfold waitAfter at h
          split at h
          · cases h
          · split at h <;> cases h
      · rw [if_neg hretry] at h
        obtain ⟨hfound, rfl⟩ := Verdict.stop.inj h
        obtain rfl := Except.ok.inj hfound
        exact ⟨rfl, Bool.eq_false_iff.mpr hretry, rfl⟩
    next => cases h
    next => split at h <;> cases h
  · rintro ⟨rfl, hretry, rfl⟩
    rw [verdict, if_neg (Bool.eq_false_iff.mp hretry)]

/-- An attempt that ends a fetch with a response got that response in time. -/
theorem outcome_of_attempt {made : Nat} {start finish : Duration} {warnings : List Warning}
    (h : f.attempt url asked limit made start = .stop finish (.answered (.ok response)) warnings) :
    (f.transport url (asked + made)).outcome = .ok response ∧
      f.policy.shouldRetry response = false := by
  unfold attempt attemptNumbered at h
  dsimp only at h
  split at h
  · cases h
  · split at h
    next result found hverdict =>
      obtain ⟨-, hending, -⟩ := Next.stop.inj h
      obtain rfl := Ending.answered.inj hending
      obtain ⟨houtcome, hretry, -⟩ := verdict_eq_stop_ok_iff.mp hverdict
      exact ⟨houtcome, hretry⟩
    next => split at h <;> cases h

/-- A fetch that gives a response has made requests, and the last one was answered with it. -/
theorem outcome_of_answered {countable made : Nat} {start : Duration}
    (h : (f.attempts url asked limit countable made start).ending = .answered (.ok response)) :
    ∃ earlier, (f.attempts url asked limit countable made start).starts.length = earlier + 1 ∧
      (f.transport url (asked + made + earlier)).outcome = .ok response ∧
      f.policy.shouldRetry response = false := by
  -- Every attempt but the last goes on to the next one, with one more made before it.
  induction countable generalizing made start with
  | zero => cases h
  | succ countable ih =>
    rw [attempts] at h ⊢
    cases hnext : f.attempt url asked limit made start with
    | stop finish ending warnings =>
      rw [hnext] at h
      dsimp only [Run.single] at h ⊢
      subst h
      obtain ⟨houtcome, hretry⟩ := outcome_of_attempt hnext
      exact ⟨0, rfl, houtcome, hretry⟩
    | again next =>
      rw [hnext] at h
      obtain ⟨earlier, hlength, houtcome, hretry⟩ := ih h
      refine ⟨earlier + 1, ?_, ?_, hretry⟩
      · dsimp only [Run.after]
        rw [List.length_cons, hlength]
      · rw [show asked + made + (earlier + 1) = asked + (made + 1) + earlier by omega]
        exact houtcome

end ImageImports.Fetcher
