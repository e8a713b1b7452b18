import ImageImports.Proofs.Fetch.Deadline

/-!
# Fetches over networks that may be silent

A network need not answer. A fetch over it that has no deadline goes from attempt to attempt. It
ends on the arrival of a reply that settles it, or panics where the number of an attempt overflows,
and if a request is never answered it has no end at all.

A transport always answers, and up to a deadline it can be taken for a network if it answers as the
network does and, where that is silent, too late for the deadline. With the deadline the fetch over
such a transport makes the attempts that the fetch over the network comes to in time, and it is cut
at the deadline just where the fetch over the network has not ended before.

## Main definitions

* `Network`, `Network.ShownBy`: a network, and the transports that can be taken for it.
* `Fetcher.ComesTo`, `Fetcher.EndsFrom`: the attempts and the end of a fetch without a deadline.

## Main results

* `Fetcher.ComesTo.unique`: every attempt starts at one time.
* `Fetcher.finish_of_endsFrom`: a fetch that ends in time ends as it does without a deadline.
* `Fetcher.cut_of_forall_endsFrom`: a fetch that does not end in time is cut.
* `Fetcher.getElem?_starts_iff`: the attempts that are made with a deadline.
-/

namespace ImageImports

open Fetch

/-- A network need not answer: it gives a reply to each request for a URL, or never any. -/
abbrev Network := Url → Nat → Option Reply

/-- Up to a deadline a transport can be taken for a network: it replies as the network does, and
where the network never replies it takes longer than the deadline. -/
structure Network.ShownBy (n : Network) (timeout : Duration) (transport : Transport) : Prop where
  reply : ∀ {url asked reply}, n url asked = some reply → transport url asked = reply
  late : ∀ {url asked}, n url asked = none →
    timeout.nanos < (transport url asked).stall.nanos

namespace Fetcher

section

variable (f : Fetcher) (n : Network) (url : Url) (asked : Nat) (start : Duration)

/-- The attempts that a fetch without a deadline comes to, by how many were made before them, and
the times at which they start. The one whose number overflows is the last of them. -/
inductive ComesTo : Nat → Duration → Prop
  | first : ComesTo 0 start
  | next {made : Nat} {time wait : Duration} {reply : Reply} (h : ComesTo made time)
      (hcounted : made < attemptLimit) (hreply : n url (asked + made) = some reply)
      (hwait : f.verdict url (f.clock (time + reply.stall)) (made + 1) reply.outcome =
        .wait wait) :
      ComesTo (made + 1) (time + reply.stall + wait)

/-- When and how a fetch without a deadline ends, from an attempt on that starts at a given time. No
end is told of a fetch that goes on for ever or waits for a reply that never comes. -/
inductive EndsFrom : Nat → Duration → Duration → Ending → Prop
  | answered {made : Nat} {time : Duration} {reply : Reply}
      {result : Except FetchError Response} {warnings : List Warning}
      (hcounted : made < attemptLimit) (hreply : n url (asked + made) = some reply)
      (hstop : f.verdict url (f.clock (time + reply.stall)) (made + 1) reply.outcome =
        .stop result warnings) :
      EndsFrom made time (time + reply.stall) (.answered result)
  | later {made : Nat} {time wait finish : Duration} {reply : Reply} {ending : Ending}
      (hcounted : made < attemptLimit) (hreply : n url (asked + made) = some reply)
      (hwait : f.verdict url (f.clock (time + reply.stall)) (made + 1) reply.outcome =
        .wait wait)
      (h : EndsFrom (made + 1) (time + reply.stall + wait) finish ending) :
      EndsFrom made time finish ending
  | panicked {made : Nat} {time : Duration} (hlimit : made = attemptLimit) :
      EndsFrom made time time .panicked

end

variable {f : Fetcher} {n : Network} {url : Url} {asked made countable : Nat}
  {limit : Option Duration} {start timeout time next finish : Duration} {ending : Ending}

/-! ### The attempts without a deadline -/

/-- An attempt that is not the first comes after the reply to the one before and a wait. -/
theorem ComesTo.exists_of_succ (h : f.ComesTo n url asked start (made + 1) next) :
    ∃ time reply wait, f.ComesTo n url asked start made time ∧ made < attemptLimit ∧
      n url (asked + made) = some reply ∧
      f.verdict url (f.clock (time + reply.stall)) (made + 1) reply.outcome = .wait wait ∧
      next = time + reply.stall + wait := by
  cases h with
  | next h hcounted hreply hwait => exact ⟨_, _, _, h, hcounted, hreply, hwait, rfl⟩

/-- Every attempt starts at one time. -/
theorem ComesTo.unique (h : f.ComesTo n url asked start made time)
    (h' : f.ComesTo n url asked start made next) : time = next := by
  induction h generalizing next with
  | first => cases h'; rfl
  | next h hcounted hreply hwait ih =>
    obtain ⟨time', reply', wait', hcomes, -, hreply', hwait', rfl⟩ := h'.exists_of_succ
    obtain rfl := ih hcomes
    obtain rfl := Option.some.inj (hreply.symm.trans hreply')
    obtain rfl := Verdict.wait.inj (hwait.symm.trans hwait')
    rfl

theorem ComesTo.start_le (h : f.ComesTo n url asked start made time) :
    start.nanos ≤ time.nanos := by
  induction h with
  | first => exact Nat.le_refl _
  | next h hcounted hreply hwait ih =>
    exact Nat.le_trans ih (Nat.le_trans (Nat.le_add_right _ _) (Nat.le_add_right _ _))

/-! ### The end without a deadline -/

theorem EndsFrom.le (h : f.EndsFrom n url asked made time finish ending) :
    time.nanos ≤ finish.nanos := by
  induction h with
  | answered => exact Nat.le_add_right _ _
  | later hcounted hreply hwait h ih =>
    exact Nat.le_trans (Nat.le_trans (Nat.le_add_right _ _) (Nat.le_add_right _ _)) ih
  | panicked => exact Nat.le_refl _

theorem EndsFrom.ne_cut (h : f.EndsFrom n url asked made time finish ending) : ending ≠ .cut := by
  induction h with
  | answered => exact nofun
  | later hcounted hreply hwait h ih => exact ih
  | panicked => exact nofun

/-- Over a transport that replies where the network does, a fetch that ends in time ends as it does
over the network. -/
theorem finish_of_endsFrom
    (hshown : ∀ {url asked reply}, n url asked = some reply → f.transport url asked = reply)
    (h : f.EndsFrom n url asked made time finish ending) (hfinish : isPast limit finish = false)
    (hcountable : made + countable = attemptLimit) :
    (f.attempts url asked limit countable made time).finish = finish ∧
      (f.attempts url asked limit countable made time).ending = ending := by
  have hinTime {moment : Duration} (hle : moment.nanos ≤ finish.nanos) :
      isPast limit moment = false := by
    cases limit with
    | none => rfl
    | some last =>
      rw [isPast_some_eq_false_iff] at hfinish ⊢
      exact Nat.le_trans hle hfinish
  induction h generalizing countable with
  | answered hcounted hreply hstop =>
    obtain ⟨countable, rfl⟩ : ∃ rest, countable = rest + 1 := ⟨countable - 1, by omega⟩
    obtain rfl := hshown hreply
    rw [attempts, attempt_of_stop hfinish hstop]
    exact ⟨rfl, rfl⟩
  | later hcounted hreply hwait h ih =>
    obtain ⟨countable, rfl⟩ : ∃ rest, countable = rest + 1 := ⟨countable - 1, by omega⟩
    obtain rfl := hshown hreply
    have hnext := h.le
    have hattempt := attempt_eq_again_iff.mpr
      ⟨hinTime (Nat.le_trans (Nat.le_add_right _ _) hnext), hinTime hnext, _, hwait, rfl⟩
    rw [attempts, hattempt]
    exact ih hfinish (by omega) hinTime
  | panicked hlimit =>
    obtain rfl : countable = 0 := by omega
    exact ⟨rfl, rfl⟩

/-! ### The attempts with a deadline -/

section

variable (hshown : n.ShownBy timeout f.transport)

include hshown

theorem isPast_of_silent (hsilent : n url (asked + made) = none)
    (hstart : start.nanos ≤ time.nanos) :
    isPast (some (start + timeout)) (time + (f.transport url (asked + made)).stall) = true := by
  have hlate := hshown.late hsilent
  rw [isPast_some_iff, Duration.nanos_add, Duration.nanos_add]
  omega

/-- With a deadline an attempt is followed by the one that the fetch comes to next, if that starts
in time. -/
theorem attempt_eq_again_iff_comesTo (h : f.ComesTo n url asked start made time)
    (hcounted : made < attemptLimit) :
    f.attempt url asked (some (start + timeout)) made time = .again next ↔
      f.ComesTo n url asked start (made + 1) next ∧ next.nanos ≤ (start + timeout).nanos := by
  rw [attempt_eq_again_iff]
  constructor
  · rintro ⟨harrival, hnext, wait, hwait, rfl⟩
    cases hreply : n url (asked + made) with
    | none => rw [isPast_of_silent hshown hreply h.start_le] at harrival; cases harrival
    | some reply =>
      obtain rfl := hshown.reply hreply
      exact ⟨.next h hcounted hreply hwait, isPast_some_eq_false_iff.mp hnext⟩
  · rintro ⟨hcomes, hnext⟩
    obtain ⟨time', reply, wait, hbefore, -, hreply, hwait, rfl⟩ := hcomes.exists_of_succ
    obtain rfl := h.unique hbefore
    obtain rfl := hshown.reply hreply
    exact ⟨isPast_some_eq_false_iff.mpr (Nat.le_trans (Nat.le_add_right _ _) hnext),
      isPast_some_eq_false_iff.mpr hnext, wait, hwait, rfl⟩

/-- The attempts that are made with a deadline are those that start in time without it. -/
theorem getElem?_starts_iff :
    (f.fetch url asked start (some (start + timeout))).starts[made]? = some time ↔
      made < attemptLimit ∧ f.ComesTo n url asked start made time ∧
        time.nanos ≤ (start + timeout).nanos := by
  rw [fetch]
  induction made generalizing time with
  | zero =>
    rw [getElem?_starts_zero_iff]
    constructor
    · rintro ⟨hcounted, rfl⟩
      exact ⟨hcounted, .first, Nat.le_add_right _ _⟩
    · rintro ⟨hcounted, hcomes, -⟩
      exact ⟨hcounted, hcomes.unique .first⟩
  | succ made ih =>
    constructor
    · intro h
      have hlength := (List.getElem?_eq_some_iff.mp h).1
      obtain ⟨hcounted, hbefore, -⟩ := ih.mp (List.getElem?_eq_getElem (by omega))
      obtain ⟨hnext, hattempt⟩ := (getElem?_starts_succ_iff
        (List.getElem?_eq_getElem (Nat.lt_of_succ_lt hlength))).mp h
      rw [Nat.zero_add] at hattempt
      exact ⟨hnext, (attempt_eq_again_iff_comesTo hshown hbefore hcounted).mp hattempt⟩
    · rintro ⟨hcounted, hcomes, htime⟩
      obtain ⟨before, reply, wait, hbefore, hlt, -, -, hafter⟩ := hcomes.exists_of_succ
      have hearlier : before.nanos ≤ time.nanos := by
        rw [hafter, Duration.nanos_add, Duration.nanos_add]
        omega
      refine (getElem?_starts_succ_iff
        (ih.mpr ⟨hlt, hbefore, Nat.le_trans hearlier htime⟩)).mpr ⟨hcounted, ?_⟩
      rw [Nat.zero_add]
      exact (attempt_eq_again_iff_comesTo hshown hbefore hlt).mpr ⟨hcomes, htime⟩

/-- A fetch that does not end in time is cut at the deadline. -/
theorem cut_of_forall_endsFrom (hstart : start.nanos ≤ time.nanos)
    (htime : time.nanos ≤ (start + timeout).nanos)
    (h : ∀ finish ending, f.EndsFrom n url asked made time finish ending →
      (start + timeout).nanos < finish.nanos)
    (hcountable : made + countable = attemptLimit) :
    (f.attempts url asked (some (start + timeout)) countable made time).finish =
        start + timeout ∧
      (f.attempts url asked (some (start + timeout)) countable made time).ending = .cut := by
  induction countable generalizing made time with
  | zero => exact absurd (h time .panicked (.panicked hcountable)) (Nat.not_lt_of_le htime)
  | succ countable ih =>
    have hcounted : made < attemptLimit := by omega
    have hlate (hpast : isPast (some (start + timeout))
        (time + (f.transport url (asked + made)).stall) = true) :
        f.attempt url asked (some (start + timeout)) made time =
          .stop (start + timeout) .cut [] := attempt_of_late hpast
    rw [attempts]
    by_cases harrival : isPast (some (start + timeout))
        (time + (f.transport url (asked + made)).stall) = true
    · rw [hlate harrival]
      exact ⟨rfl, rfl⟩
    · cases hreply : n url (asked + made) with
      | none => exact absurd (isPast_of_silent hshown hreply hstart) harrival
      | some reply =>
        obtain rfl := hshown.reply hreply
        have harrival := Bool.eq_false_iff.mpr harrival
        cases hverdict : f.verdict url (f.clock (time + (f.transport url (asked + made)).stall))
          (made + 1) (f.transport url (asked + made)).outcome with
        | stop result warnings =>
          have hend := h _ _ (.answered hcounted hreply hverdict)
          exact absurd hend (Nat.not_lt_of_le (isPast_some_eq_false_iff.mp harrival))
        | wait wait =>
          rw [attempt_of_wait harrival hverdict]
          by_cases hnext : isPast (some (start + timeout))
              (time + (f.transport url (asked + made)).stall + wait) = true
          · rw [if_pos hnext]
            exact ⟨rfl, rfl⟩
          · rw [if_neg hnext]
            refine ih ?_ (isPast_some_eq_false_iff.mp (Bool.eq_false_iff.mpr hnext))
              (fun finish ending hend => h finish ending
                (.later hcounted hreply hverdict hend)) (by omega)
            exact Nat.le_trans hstart
              (Nat.le_trans (Nat.le_add_right _ _) (Nat.le_add_right _ _))

end

end Fetcher

end ImageImports
