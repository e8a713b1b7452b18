import ImageImports.Proofs.Fetch.Attempts

/-!
# Attempt numbers that overflow

A build that checks for overflows and one that does not make the same fetch as long as the numbers
of its attempts fit in 32 bits. Only a policy with as many retries as these bits hold lets a fetch
come further. No number is greater then, so the retries are never used up, and the build that does
not check makes attempts until a reply settles the fetch.

Its numbers start again at zero. They still tell the delay, so the times of its attempts are those
of a fetcher whose delay does not tell two attempts apart that have the same 32 bits.

## Main definitions

* `Fetcher.rewound`: the fetcher whose delay starts again with the numbers.

## Main results

* `Fetcher.wrappingFrom_of_attempts`: a fetch that does not overflow is the same in both builds.
* `Fetcher.wrappingFrom_of_settled`, `Fetcher.wrappingFrom_of_unsettled`: with as many retries as
  can be counted, a fetch ends by a reply that settles it or goes on.
-/

namespace ImageImports.Fetcher

open Fetch

variable {f : Fetcher} {url : Url} {asked made countable more : Nat} {limit : Option Duration}
  {start : Duration}

theorem wrapped_of_lt (h : made < attemptLimit) : wrapped made = made + 1 :=
  Nat.mod_eq_of_lt (Nat.succ_lt_succ h)

theorem wrapped_le : wrapped made ≤ attemptLimit :=
  Nat.le_of_lt_succ (Nat.mod_lt _ (Nat.succ_pos attemptLimit))

/-! ### Up to the overflow -/

/-- A fetch that does not panic is the same where overflows are not checked for. -/
theorem wrappingFrom_of_attempts (hcountable : made + countable = attemptLimit)
    (hmore : countable ≤ more)
    (hending : (f.attempts url asked limit countable made start).ending ≠ .panicked) :
    f.wrappingFrom url asked limit more made start =
      ⟨(f.attempts url asked limit countable made start).starts,
        some (f.attempts url asked limit countable made start).ending⟩ := by
  induction countable generalizing more made start with
  | zero => exact absurd rfl hending
  | succ countable ih =>
    obtain ⟨more, rfl⟩ : ∃ rest, more = rest + 1 := ⟨more - 1, by omega⟩
    rw [wrappingFrom, wrapped_of_lt (by omega), ← attempt]
    rw [attempts] at hending ⊢
    cases hattempt : f.attempt url asked limit made start with
    | stop finish ending warnings => rfl
    | again next =>
      rw [hattempt] at hending
      exact congrArg (Opening.after start)
        (ih (by omega) (Nat.le_of_succ_le_succ hmore) hending)

/-! ### Retries that are never used up -/

/-- The fetcher whose delay is that of the number in 32 bits, whatever the number is. -/
def rewound (f : Fetcher) : Fetcher :=
  let delay := f.policy.delay
  { f with policy := { f.policy with delay := .backoff fun n => delay.after (n % 2 ^ 32) } }

section

variable (hretries : f.policy.retries.toNat = attemptLimit)

include hretries

/-- No number is greater than that of the retries, so an attempt ends the fetch just if its outcome
settles it. -/
theorem attemptNumbered_wrapped_cases (made : Nat) :
    (f.Settles (f.rewound.instantOf url asked start made) (f.outcomeOf url asked made) ∧
      ∃ finish result warnings, f.attemptNumbered url asked none (wrapped made) made
        (f.rewound.startOf url asked start made) = .stop finish (.answered result) warnings) ∨
    (¬ f.Settles (f.rewound.instantOf url asked start made) (f.outcomeOf url asked made) ∧
      f.attemptNumbered url asked none (wrapped made) made
        (f.rewound.startOf url asked start made) =
          .again (f.rewound.startOf url asked start (made + 1))) := by
  have hnumber : wrapped made ≤ f.policy.retries.toNat := hretries ▸ wrapped_le
  have hends (p : Prop) : wrapped made = f.policy.retries.toNat + 1 ∨ p ↔ p :=
    or_iff_right (by omega)
  obtain ⟨hstops, result, warnings, hverdict, -⟩ | ⟨hstops, hverdict, -⟩ :=
    verdict_cases url (f.rewound.instantOf url asked start made) (f.outcomeOf url asked made)
      (Nat.le_succ_of_le hnumber)
  · exact .inl ⟨(hends _).mp hstops, _, result, warnings, attemptNumbered_of_stop rfl hverdict⟩
  · exact .inr ⟨fun h => hstops ((hends _).mpr h), attemptNumbered_of_wait rfl hverdict⟩

/-- While no reply settles the fetch it goes on, however many attempts were made. -/
theorem wrappingFrom_of_unsettled (hgoes : ∀ i < more, ¬ f.Settles
      (f.rewound.instantOf url asked start (made + i)) (f.outcomeOf url asked (made + i))) :
    let opening := f.wrappingFrom url asked none more made (f.rewound.startOf url asked start made)
    opening.ending = none ∧ opening.starts.length = more := by
  induction more generalizing made with
  | zero => exact ⟨rfl, rfl⟩
  | succ more ih =>
    obtain ⟨hsettles, -⟩ | ⟨-, hattempt⟩ := attemptNumbered_wrapped_cases hretries made
    · exact absurd hsettles (hgoes 0 (Nat.succ_pos more))
    · obtain ⟨hending, hlength⟩ := @ih (made + 1) fun i hi => by
        rw [show made + 1 + i = made + (i + 1) by omega]
        exact hgoes (i + 1) (Nat.succ_lt_succ hi)
      rw [wrappingFrom, hattempt]
      exact ⟨hending, congrArg Nat.succ hlength⟩

/-- A reply that settles the fetch ends it, or one before does. -/
theorem wrappingFrom_of_settled {last : Nat} (hlast : last < more)
    (hsettles : f.Settles (f.rewound.instantOf url asked start (made + last))
      (f.outcomeOf url asked (made + last))) :
    ∃ result, (f.wrappingFrom url asked none more made
      (f.rewound.startOf url asked start made)).ending = some (.answered result) := by
  induction more generalizing made last with
  | zero => cases hlast
  | succ more ih =>
    rw [wrappingFrom]
    obtain ⟨-, finish, result, warnings, hattempt⟩ | ⟨hgoes, hattempt⟩ :=
      attemptNumbered_wrapped_cases hretries made
    · rw [hattempt]
      exact ⟨result, rfl⟩
    · rw [hattempt]
      cases last with
      | zero => exact absurd hsettles hgoes
      | succ last =>
        rw [show made + (last + 1) = made + 1 + last by omega] at hsettles
        exact ih (Nat.lt_of_succ_lt_succ hlast) hsettles

end

end ImageImports.Fetcher
