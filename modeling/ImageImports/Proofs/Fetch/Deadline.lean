import ImageImports.Fetch.Retry

/-!
# Fetches with a limit in time

Time only goes forward in a fetch. A limit changes nothing up to the limit, and there the fetch ends
at the latest, so it takes what it would take without a limit or what the limit leaves it, whichever
is shorter.

## Main results

* `Fetcher.attemptNumbered_of_stop`, `Fetcher.attemptNumbered_of_wait`,
  `Fetcher.attempt_eq_again_iff`: what comes after an attempt whose reply is in time.
* `Fetcher.getElem?_starts_succ_iff`: which attempt comes after another one.
* `Fetcher.le_finish_attempts`: a fetch does not end before it starts.
* `Fetcher.attempts_limit_of_le`: a limit that is not reached changes nothing.
* `Fetcher.finish_fetch_limit`: when a fetch with a limit ends.
-/

namespace ImageImports.Fetcher

open Fetch

variable {f : Fetcher} {url : Url} {asked made countable : Nat} {limit : Option Duration}
  {start next finish time : Duration}

theorem isPast_some_iff {last time : Duration} :
    isPast (some last) time = true ↔ last.nanos < time.nanos := decide_eq_true_iff

theorem isPast_some_eq_false_iff {last time : Duration} :
    isPast (some last) time = false ↔ time.nanos ≤ last.nanos := by
  rw [← Bool.not_eq_true, isPast_some_iff, Nat.not_lt]

/-! ### An attempt by its verdict -/

theorem attempt_of_late
    (harrival : isPast limit (start + (f.transport url (asked + made)).stall) = true) :
    f.attempt url asked limit made start = .stop (limit.getD start) .cut [] := if_pos harrival

section

variable {number : Nat}
  (harrival : isPast limit (start + (f.transport url (asked + made)).stall) = false)

include harrival

/-- A reply in time that settles a fetch ends it on its arrival. -/
theorem attemptNumbered_of_stop {result : Except FetchError Response} {warnings : List Warning}
    (hverdict : f.verdict url (f.clock (start + (f.transport url (asked + made)).stall)) number
      (f.transport url (asked + made)).outcome = .stop result warnings) :
    f.attemptNumbered url asked limit number made start =
      .stop (start + (f.transport url (asked + made)).stall) (.answered result) warnings := by
  rw [attemptNumbered, if_neg (Bool.eq_false_iff.mp harrival), hverdict]

/-- A reply in time that calls for a wait is followed by the next attempt, if that is in time. -/
theorem attemptNumbered_of_wait {time : Duration}
    (hverdict : f.verdict url (f.clock (start + (f.transport url (asked + made)).stall)) number
      (f.transport url (asked + made)).outcome = .wait time) :
    f.attemptNumbered url asked limit number made start =
      if isPast limit (start + (f.transport url (asked + made)).stall + time) then
        .stop (limit.getD start) .cut []
      else .again (start + (f.transport url (asked + made)).stall + time) := by
  rw [attemptNumbered, if_neg (Bool.eq_false_iff.mp harrival), hverdict]

theorem attempt_of_stop {result : Except FetchError Response} {warnings : List Warning}
    (hverdict : f.verdict url (f.clock (start + (f.transport url (asked + made)).stall)) (made + 1)
      (f.transport url (asked + made)).outcome = .stop result warnings) :
    f.attempt url asked limit made start =
      .stop (start + (f.transport url (asked + made)).stall) (.answered result) warnings :=
  attemptNumbered_of_stop harrival hverdict

theorem attempt_of_wait {time : Duration}
    (hverdict : f.verdict url (f.clock (start + (f.transport url (asked + made)).stall)) (made + 1)
      (f.transport url (asked + made)).outcome = .wait time) :
    f.attempt url asked limit made start =
      if isPast limit (start + (f.transport url (asked + made)).stall + time) then
        .stop (limit.getD start) .cut []
      else .again (start + (f.transport url (asked + made)).stall + time) :=
  attemptNumbered_of_wait harrival hverdict

end

/-- An attempt is followed by another one if its reply is in time and calls for a wait that ends in
time. -/
theorem attempt_eq_again_iff : f.attempt url asked limit made start = .again next ↔
    isPast limit (start + (f.transport url (asked + made)).stall) = false ∧
      isPast limit next = false ∧
      ∃ time, f.verdict url (f.clock (start + (f.transport url (asked + made)).stall)) (made + 1)
          (f.transport url (asked + made)).outcome = .wait time ∧
        next = start + (f.transport url (asked + made)).stall + time := by
  constructor
  · intro h
    unfold attempt attemptNumbered at h
    dsimp only at h
    split at h
    · cases h
    next harrival =>
      split at h
      · cases h
      next time hverdict =>
        split at h
        · cases h
        next hpast =>
          obtain rfl := Next.again.inj h
          exact ⟨Bool.eq_false_iff.mpr harrival, Bool.eq_false_iff.mpr hpast, time, hverdict, rfl⟩
  · rintro ⟨harrival, hnext, time, hverdict, rfl⟩
    rw [attempt_of_wait harrival hverdict, if_neg (Bool.eq_false_iff.mp hnext)]

/-! ### Starts that follow each other -/

theorem getElem?_starts_zero_iff :
    (f.attempts url asked limit countable made start).starts[0]? = some time ↔
      0 < countable ∧ time = start := by
  cases countable with
  | zero => simp [attempts]
  | succ countable =>
    rw [attempts]
    split <;> simp [Run.single, Run.after, eq_comm]

/-- An attempt is the next one after another just if it comes after it and can be counted. -/
theorem getElem?_starts_succ_iff {i : Nat}
    (h : (f.attempts url asked limit countable made start).starts[i]? = some time) :
    (f.attempts url asked limit countable made start).starts[i + 1]? = some next ↔
      i + 1 < countable ∧ f.attempt url asked limit (made + i) time = .again next := by
  induction countable generalizing made start i with
  | zero => cases h
  | succ countable ih =>
    rw [attempts] at h ⊢
    cases hattempt : f.attempt url asked limit made start with
    | stop finish ending warnings =>
      rw [hattempt] at h
      obtain ⟨rfl, rfl⟩ : i = 0 ∧ start = time := by
        cases i with
        | zero => exact ⟨rfl, Option.some.inj h⟩
        | succ i => cases h
      simp [Run.single, hattempt]
    | again second =>
      rw [hattempt] at h
      dsimp only [Run.after] at h ⊢
      rw [List.getElem?_cons_succ]
      cases i with
      | zero =>
        obtain rfl := Option.some.inj h
        rw [getElem?_starts_zero_iff, show made + 0 = made from rfl, hattempt, Next.again.injEq,
          Nat.add_lt_add_iff_right, eq_comm]
      | succ i =>
        rw [List.getElem?_cons_succ] at h
        rw [show made + (i + 1) = made + 1 + i by omega, ih h, Nat.add_lt_add_iff_right]

/-! ### Time goes forward -/

/-- An attempt that starts in time does not end the fetch before it starts. -/
theorem le_of_attempt_eq_stop {ending : Ending} {warnings : List Warning}
    (hstart : isPast limit start = false)
    (h : f.attempt url asked limit made start = .stop finish ending warnings) :
    start.nanos ≤ finish.nanos := by
  have hlimit : start.nanos ≤ (limit.getD start).nanos := by
    cases limit with
    | none => exact Nat.le_refl _
    | some last => exact isPast_some_eq_false_iff.mp hstart
  unfold attempt attemptNumbered at h
  dsimp only at h
  split at h
  · obtain ⟨rfl, -, -⟩ := Next.stop.inj h
    exact hlimit
  · split at h
    · obtain ⟨rfl, -, -⟩ := Next.stop.inj h
      exact Nat.le_add_right _ _
    · split at h
      · obtain ⟨rfl, -, -⟩ := Next.stop.inj h
        exact hlimit
      · cases h

theorem le_of_attempt_eq_again (h : f.attempt url asked limit made start = .again next) :
    start.nanos + (f.transport url (asked + made)).stall.nanos ≤ next.nanos ∧
      isPast limit next = false := by
  obtain ⟨-, hnext, time, -, rfl⟩ := attempt_eq_again_iff.mp h
  exact ⟨Nat.le_add_right _ _, hnext⟩

/-- A fetch does not end before an attempt that starts in time. -/
theorem le_finish_attempts (hstart : isPast limit start = false) :
    start.nanos ≤ (f.attempts url asked limit countable made start).finish.nanos := by
  induction countable generalizing made start with
  | zero => exact Nat.le_refl _
  | succ countable ih =>
    rw [attempts]
    cases hattempt : f.attempt url asked limit made start with
    | stop finish ending warnings => exact le_of_attempt_eq_stop hstart hattempt
    | again next =>
      obtain ⟨hle, hnext⟩ := le_of_attempt_eq_again hattempt
      exact Nat.le_trans (Nat.le_trans (Nat.le_add_right _ _) hle) (ih hnext)

/-- A limit that the attempts do not reach changes nothing. -/
theorem attempts_limit_of_le {last : Duration}
    (h : (f.attempts url asked none countable made start).finish.nanos ≤ last.nanos) :
    f.attempts url asked (some last) countable made start =
      f.attempts url asked none countable made start := by
  induction countable generalizing made start with
  | zero => rfl
  | succ countable ih =>
    rw [attempts] at h
    rw [attempts, attempts]
    cases hverdict : f.verdict url (f.clock (start + (f.transport url (asked + made)).stall))
      (made + 1) (f.transport url (asked + made)).outcome with
    | stop result warnings =>
      have hfree : f.attempt url asked none made start = _ := attempt_of_stop rfl hverdict
      rw [hfree] at h ⊢
      rw [attempt_of_stop (isPast_some_eq_false_iff.mpr h) hverdict]
    | wait time =>
      have hfree : f.attempt url asked none made start = _ :=
        attempt_eq_again_iff.mpr ⟨rfl, rfl, time, hverdict, rfl⟩
      rw [hfree] at h ⊢
      -- The next attempt starts before the end, and so in time.
      have hnext := Nat.le_trans (le_finish_attempts rfl) h
      have hreply := Nat.le_trans (Nat.le_add_right _ time.nanos) hnext
      have hlimited : f.attempt url asked (some last) made start = _ :=
        attempt_eq_again_iff.mpr ⟨isPast_some_eq_false_iff.mpr hreply,
          isPast_some_eq_false_iff.mpr hnext, time, hverdict, rfl⟩
      rw [hlimited]
      exact congrArg (Run.after start) (ih h)

/-- With a limit the attempts end when they would end without one, or else at the limit. -/
theorem finish_attempts_limit {last : Duration} (hstart : start.nanos ≤ last.nanos) :
    (f.attempts url asked (some last) countable made start).finish.nanos =
      min (f.attempts url asked none countable made start).finish.nanos last.nanos := by
  induction countable generalizing made start with
  | zero => exact (Nat.min_eq_left hstart).symm
  | succ countable ih =>
    rw [attempts, attempts]
    cases hverdict : f.verdict url (f.clock (start + (f.transport url (asked + made)).stall))
      (made + 1) (f.transport url (asked + made)).outcome with
    | stop result warnings =>
      rw [attempt_of_stop (show isPast none _ = false from rfl) hverdict]
      by_cases harrival :
          isPast (some last) (start + (f.transport url (asked + made)).stall) = true
      · rw [attempt_of_late harrival]
        exact (Nat.min_eq_right (Nat.le_of_lt (isPast_some_iff.mp harrival))).symm
      · have harrival := Bool.eq_false_iff.mpr harrival
        rw [attempt_of_stop harrival hverdict]
        exact (Nat.min_eq_left (isPast_some_eq_false_iff.mp harrival)).symm
    | wait time =>
      -- Without a limit the fetch ends after the wait, so past a limit that comes before.
      have hlater {moment : Duration} (hpast : isPast (some last) moment = true)
          (hle : moment.nanos ≤ (start + (f.transport url (asked + made)).stall + time).nanos) :
          last.nanos = min (f.attempts url asked none countable (made + 1)
            (start + (f.transport url (asked + made)).stall + time)).finish.nanos last.nanos :=
        (Nat.min_eq_right (Nat.le_trans (Nat.le_of_lt (isPast_some_iff.mp hpast))
          (Nat.le_trans hle (le_finish_attempts rfl)))).symm
      rw [attempt_of_wait (show isPast none _ = false from rfl) hverdict,
        if_neg (show ¬isPast none _ = true from Bool.false_ne_true)]
      by_cases harrival :
          isPast (some last) (start + (f.transport url (asked + made)).stall) = true
      · rw [attempt_of_late harrival]
        exact hlater harrival (Nat.le_add_right _ _)
      · rw [attempt_of_wait (Bool.eq_false_iff.mpr harrival) hverdict]
        by_cases hnext : isPast (some last)
            (start + (f.transport url (asked + made)).stall + time) = true
        · rw [if_pos hnext]
          exact hlater hnext (Nat.le_refl _)
        · rw [if_neg hnext]
          exact ih (isPast_some_eq_false_iff.mp (Bool.eq_false_iff.mpr hnext))

/-- A fetch with a limit ends when it would end without one, or else at the limit. -/
theorem finish_fetch_limit {last : Duration} (hstart : start.nanos ≤ last.nanos) :
    (f.fetch url asked start (some last)).finish.nanos =
      min (f.fetch url asked start none).finish.nanos last.nanos :=
  finish_attempts_limit hstart

end ImageImports.Fetcher
