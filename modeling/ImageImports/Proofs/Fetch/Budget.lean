import ImageImports.Proofs.Fetch.Overflow

/-!
# The budget of a fetch

A fetch makes one attempt more than it has retries, at most. It counts its attempts in 32 bits, and
it gives up on the attempt whose number is greater than that of the retries. With as many retries as
can be counted there is no such number, and then only a reply can end the fetch. If none of those
that can be counted does, a build that checks for overflows panics, and one that does not goes on
until a reply ends the fetch, beyond the attempts it may make.

## Main results

* `Fetcher.lt_retries_of_again`: an attempt is followed by another one only while a retry is left.
* `Fetcher.length_starts_attempts_le`: how many attempts a fetch makes at most.
* `Fetcher.attempts_of_settled`, `Fetcher.attempts_of_unsettled`: attempts that all have a retry
  left, or none that is looked at.
* `Fetcher.fetch_stays_in_budget`: how many attempts a fetch makes, and when it ends.
-/

namespace ImageImports.Fetcher

open Fetch

variable {f : Fetcher} {url : Url} {asked made countable : Nat} {limit : Option Duration}
  {start next : Duration}

/-! ### At most one attempt more than retries -/

/-- An attempt is followed by another one only while a retry is left. -/
theorem lt_retries_of_again (hmade : made ≤ f.policy.retries.toNat)
    (h : f.attempt url asked limit made start = .again next) : made < f.policy.retries.toNat := by
  obtain ⟨-, -, time, hverdict, -⟩ := attempt_eq_again_iff.mp h
  obtain ⟨-, result, warnings, hstop, -⟩ | ⟨hgoes, -, -⟩ :=
    verdict_cases url (f.clock (start + (f.transport url (asked + made)).stall))
      (f.transport url (asked + made)).outcome (Nat.succ_le_succ hmade)
  · rw [hstop] at hverdict
    cases hverdict
  · have hlast : made + 1 ≠ f.policy.retries.toNat + 1 := fun hlast => hgoes (.inl hlast)
    omega

/-- From an attempt on there are at most as many as can be counted, and one more than there are
retries left. -/
theorem length_starts_attempts_le (hmade : made ≤ f.policy.retries.toNat) :
    (f.attempts url asked limit countable made start).starts.length ≤
      min countable (f.policy.retries.toNat + 1 - made) := by
  induction countable generalizing made start with
  | zero => simp [attempts]
  | succ countable ih =>
    rw [attempts]
    cases hattempt : f.attempt url asked limit made start with
    | stop finish ending warnings =>
      simp only [Run.single, List.length_singleton]
      omega
    | again next =>
      have hleft := lt_retries_of_again hmade hattempt
      have hrest := @ih (made + 1) next hleft
      simp only [Run.after, List.length_cons]
      omega

/-! ### Attempts that are all counted -/

/-- A reply that settles the fetch ends it, or one before does, if the attempts up to it can be
counted. -/
theorem attempts_of_settled (hmade : made + countable ≤ f.policy.retries.toNat + 1) {last : Nat}
    (hlast : last < countable) (hends : f.EndsAt url asked start (made + last)) :
    ∃ result, (f.attempts url asked none countable made (f.startOf url asked start made)).ending =
      .answered result := by
  induction countable generalizing made last with
  | zero => cases hlast
  | succ countable ih =>
    rw [attempts]
    obtain ⟨-, result, warnings, hattempt, -⟩ | ⟨hgoes, hattempt, -⟩ :=
      attempt_cases url asked start (show made ≤ f.policy.retries.toNat by omega)
    · rw [hattempt]
      exact ⟨result, rfl⟩
    · rw [hattempt]
      cases last with
      | zero => exact absurd hends hgoes
      | succ last =>
        rw [show made + (last + 1) = made + 1 + last by omega] at hends
        exact ih (by omega) (Nat.lt_of_succ_lt_succ hlast) hends

/-- Where no attempt ends the fetch, all are made that can be counted, and the fetch has no end. -/
theorem attempts_of_unsettled (hmade : made + countable ≤ f.policy.retries.toNat + 1)
    (hgoes : ∀ i < countable, ¬ f.EndsAt url asked start (made + i)) :
    let run := f.attempts url asked none countable made (f.startOf url asked start made)
    run.ending = .panicked ∧ run.starts.length = countable := by
  induction countable generalizing made with
  | zero => exact ⟨rfl, rfl⟩
  | succ countable ih =>
    obtain ⟨hends, -⟩ | ⟨-, hattempt, -⟩ :=
      attempt_cases url asked start (show made ≤ f.policy.retries.toNat by omega)
    · exact absurd hends (hgoes 0 (Nat.succ_pos countable))
    · obtain ⟨hending, hlength⟩ := @ih (made + 1) (by omega) fun i hi => by
        rw [show made + 1 + i = made + (i + 1) by omega]
        exact hgoes (i + 1) (Nat.succ_lt_succ hi)
      rw [attempts, hattempt]
      exact ⟨hending, congrArg Nat.succ hlength⟩

/-! ### The whole fetch -/

/-- A fetch gives a result if there are fewer retries than can be counted, or if a reply that
can be counted settles it. -/
theorem answered_of_settled (h : f.policy.retries.toNat < attemptLimit ∨ ∃ made < attemptLimit,
      f.Settles (f.instantOf url asked start made) (f.outcomeOf url asked made)) :
    ∃ result, (f.fetch url asked start none).ending = .answered result := by
  by_cases hretries : f.policy.retries.toNat < attemptLimit
  · obtain ⟨-, result, -, -, -, -, hending, -⟩ := attempts_follow_table url asked start
      (Nat.zero_le f.policy.retries.toNat) (by rwa [Nat.zero_add])
    exact ⟨result, hending⟩
  · obtain ⟨last, hlast, hsettles⟩ := h.resolve_left hretries
    have hends : f.EndsAt url asked start (0 + last) := by
      rw [Nat.zero_add]
      exact .inr hsettles
    exact attempts_of_settled (by omega) hlast hends

/-- A fetch that has neither makes all attempts that can be counted and panics before the next. -/
theorem panicked_of_unsettled (hretries : attemptLimit ≤ f.policy.retries.toNat)
    (hunsettled : ¬ ∃ made < attemptLimit,
      f.Settles (f.instantOf url asked start made) (f.outcomeOf url asked made)) :
    (f.fetch url asked start none).ending = .panicked ∧
      (f.fetch url asked start none).starts.length = attemptLimit := by
  have hgoes : ∀ i < attemptLimit, ¬ f.EndsAt url asked start (0 + i) := by
    intro i hi hlast
    rw [Nat.zero_add] at hlast
    obtain hlast | hsettles := hlast
    · omega
    · exact hunsettled ⟨i, hi, hsettles⟩
  exact attempts_of_unsettled (by omega) hgoes

/-- In a build that checks for overflows, a fetch makes at most one attempt more than it has
retries, whatever limit it has in time. It ends with a result if there are fewer retries than can be
counted, or if a reply that can be counted settles it. A fetch without a limit that has neither
makes every attempt that can be counted, and panics before the next.

In a build that does not check, a fetch that would not panic is the same. With as many retries as
can be counted, a fetch without a limit ends only if a reply settles it. Until then it goes on, and
the number of its attempts has no bound. -/
theorem fetch_stays_in_budget (f : Fetcher) (url : Url) (asked : Nat) (start : Duration) :
    let run := f.fetch url asked start none
    let settled := ∃ made < 2 ^ 32 - 1,
      f.Settles (f.instantOf url asked start made) (f.outcomeOf url asked made)
    ((∀ limit, (f.fetch url asked start limit).starts.length ≤ f.policy.retries.toNat + 1) ∧
      ((∃ result, run.ending = .answered result) ↔
        f.policy.retries.toNat < 2 ^ 32 - 1 ∨ settled) ∧
      (run.ending = .panicked ↔ f.policy.retries.toNat = 2 ^ 32 - 1 ∧ ¬ settled) ∧
      (run.ending = .panicked → run.starts.length = 2 ^ 32 - 1)) ∧
    (∀ limit, let run := f.fetch url asked start limit
      run.ending ≠ .panicked → ∀ number ≥ 2 ^ 32 - 1,
        f.wrapping url asked start limit number = ⟨run.starts, some run.ending⟩) ∧
    (f.policy.retries.toNat = 2 ^ 32 - 1 → ∀ number,
      let opening := f.wrapping url asked start none number
      let settled := ∃ made < number,
        f.Settles (f.rewound.instantOf url asked start made) (f.outcomeOf url asked made)
      (settled → ∃ result, opening.ending = some (.answered result)) ∧
        (¬ settled → opening.ending = none ∧ opening.starts.length = number)) := by
  intro run settled
  have hwidth : f.policy.retries.toNat < 2 ^ 32 := f.policy.retries.toNat_lt
  refine ⟨⟨?_, ?_⟩, ?_, ?_⟩
  · intro limit
    exact (length_starts_attempts_le (Nat.zero_le _)).trans (Nat.min_le_right _ _)
  · by_cases hends : f.policy.retries.toNat < 2 ^ 32 - 1 ∨ settled
    · obtain ⟨result, hresult⟩ : ∃ result, run.ending = .answered result :=
        answered_of_settled hends
      have hcounted : run.ending ≠ .panicked := by simp [hresult]
      refine ⟨iff_of_true ⟨result, hresult⟩ hends, iff_of_false hcounted ?_,
        fun hpanicked => absurd hpanicked hcounted⟩
      rintro ⟨hretries, hunsettled⟩
      exact hunsettled (hends.resolve_left (by omega))
    · obtain ⟨hretries, hunsettled⟩ := not_or.mp hends
      obtain ⟨hpanicked, hlength⟩ : run.ending = .panicked ∧ run.starts.length = 2 ^ 32 - 1 :=
        panicked_of_unsettled (Nat.le_of_not_lt hretries) hunsettled
      refine ⟨iff_of_false ?_ hends, iff_of_true hpanicked ⟨by omega, hunsettled⟩,
        fun _ => hlength⟩
      rintro ⟨result, hresult⟩
      simp [hpanicked] at hresult
  · intro limit run hending number hnumber
    exact wrappingFrom_of_attempts (Nat.zero_add attemptLimit) hnumber hending
  · intro hretries number
    constructor
    · rintro ⟨last, hlast, hsettles⟩
      exact wrappingFrom_of_settled hretries hlast (by rwa [Nat.zero_add])
    · intro hunsettled
      refine wrappingFrom_of_unsettled hretries fun i hi hsettles => hunsettled ⟨i, hi, ?_⟩
      rwa [Nat.zero_add] at hsettles

/-- A server that is always overloaded, and a fetcher with as many retries as can be counted. -/
def endless : Fetcher where
  transport := fun _ _ => ⟨.zero, .ok ⟨503, [], none⟩⟩
  policy := .ofStatuses 4294967295 (.fixed .zero) [503]
  clock := fun time => ⟨time.nanos⟩

/-- No response of that server settles a fetch: each calls for a retry and has no headers. -/
theorem not_settles_endless {url : Url} {asked made : Nat} {now : Instant} :
    ¬ endless.Settles now (endless.outcomeOf url asked made) := by
  intro hsettles
  have houtcome : endless.outcomeOf url asked made = .ok ⟨503, [], none⟩ := rfl
  rw [houtcome] at hsettles
  cases hsettles with
  | served hretry => cases hretry
  | misled _ hvalue =>
    obtain ⟨earlier, known, later, hheaders, -⟩ := hvalue
    simp at hheaders

/-- The retries are never used up. With checks the build panics after the last number, and without
them the fetch makes more attempts than it may, and more than any number of them. -/
theorem fetch_stays_in_budget_endless :
    let url : Url := ⟨"https", none, "/cat.png", none, none⟩
    let run := endless.fetch url 0 .zero none
    endless.policy.retries.toNat = 2 ^ 32 - 1 ∧
      run.ending = .panicked ∧ run.starts.length = 4294967295 ∧
      ∀ number, (endless.wrapping url 0 .zero none number).ending = none ∧
        (endless.wrapping url 0 .zero none number).starts.length = number := by
  intro url run
  obtain ⟨⟨-, -, hending, hlength⟩, -, hwrapping⟩ := fetch_stays_in_budget endless url 0 .zero
  have hpanicked : run.ending = .panicked :=
    hending.mpr ⟨rfl, fun ⟨made, _, hsettles⟩ => not_settles_endless hsettles⟩
  refine ⟨rfl, hpanicked, hlength hpanicked, fun number => (hwrapping rfl number).2 ?_⟩
  rintro ⟨made, -, hsettles⟩
  exact not_settles_endless hsettles

end ImageImports.Fetcher
