import ImageImports.Proofs.Fetch.Attempts

/-!
# Waits that a server asks for

A server asks for a wait by a decimal number of seconds or by a date, and no text is both. Seconds
are accepted up to the limit. A date is accepted up to the second after the limit, of which only the
start is refused: what counts are the whole seconds from now to the date, so a date may ask for a
part of a second more than the limit.

A fetch waits between two attempts as long as it is asked to, if it is asked, and so never longer
than that.

## Main definitions

* `RetryAfter.IsNumeral`: a text is a decimal number.

## Main results

* `RetryAfter.seconds?_eq_some_iff`: the texts that are read as seconds are the decimal numbers.
* `RetryAfter.read?_eq_none_of_isNumeral`: no decimal number is a date.
* `RetryAfter.nanos_lt_of_wait?`: how long a wait that is accepted can be.
* `RetryAfter.asked_waits_are_limited`: the wait that a text asks for, and the wait of a fetch.
-/

namespace ImageImports

/-! ### Decimal numbers -/

namespace Text

theorem digitValue?_ten (c : Char) :
    digitValue? 10 c = if c.isDigit then some (c.toNat - '0'.toNat) else none := by
  have hbase {n : Nat} (h : ¬ n < 10) : (some n).filter (fun n => decide (n < 10)) = none :=
    Option.filter_some_neg (by simpa using h)
  rw [digitValue?, hexValue?]
  split
  next hdigit =>
    refine Option.filter_some_pos (decide_eq_true ?_)
    have hlast : c.toNat ≤ 57 := (Char.isDigit_iff_toNat.mp hdigit).2
    omega
  next =>
    split
    next hletter =>
      have hfirst : 97 ≤ c.toNat := UInt32.le_iff_toNat_le.mp (Char.le_def.mp hletter.1)
      exact hbase (by omega)
    next =>
      split
      next hletter =>
        have hfirst : 65 ≤ c.toNat := UInt32.le_iff_toNat_le.mp (Char.le_def.mp hletter.1)
        exact hbase (by omega)
      next => rfl

theorem digitsValue?_ten_eq_some_iff {cs : List Char} {n : Nat} :
    digitsValue? 10 cs = some n ↔
      (∀ c ∈ cs, c.isDigit = true) ∧ n = Nat.ofDigitChars 10 cs 0 := by
  rw [digitsValue?]
  generalize 0 = above
  induction cs generalizing above with
  | nil =>
    rw [List.foldlM_nil, Nat.ofDigitChars_nil, Option.pure_def, Option.some_inj, eq_comm]
    simp only [List.not_mem_nil, false_implies, implies_true, true_and]
  | cons c cs ih =>
    rw [List.foldlM_cons, digitValue?_ten, Nat.ofDigitChars_cons, List.forall_mem_cons]
    by_cases hc : c.isDigit = true
    · rw [if_pos hc, Nat.mul_comm 10 above]
      simpa [hc] using ih (above * 10 + (c.toNat - '0'.toNat))
    · rw [if_neg hc]
      simp [hc]

end Text

namespace RetryAfter

/-- A text is a decimal number: digits, of which there is at least one, perhaps after a plus
sign. -/
def IsNumeral (cs : List Char) (n : Nat) : Prop :=
  ∃ digits, (cs = digits ∨ cs = '+' :: digits) ∧ digits ≠ [] ∧
    (∀ c ∈ digits, c.isDigit = true) ∧ n = Nat.ofDigitChars 10 digits 0

variable {cs : List Char} {n : Nat}

/-- The seconds of a text are those of a decimal number, however many digits it has. -/
theorem seconds?_eq_some_iff : seconds? cs = some n ↔ IsNumeral cs n := by
  have hdigits (digits : List Char) :
      (if digits.isEmpty then none else Text.digitsValue? 10 digits) = some n ↔
        digits ≠ [] ∧ (∀ c ∈ digits, c.isDigit = true) ∧ n = Nat.ofDigitChars 10 digits 0 := by
    rw [← Text.digitsValue?_ten_eq_some_iff]
    cases digits <;> simp
  unfold seconds?
  dsimp only
  rw [hdigits, IsNumeral]
  split
  next rest =>
    constructor
    · exact fun h => ⟨rest, .inr rfl, h⟩
    · rintro ⟨digits, rfl | hcs, h⟩
      · -- A plus sign is no digit.
        exact absurd (h.2.1 '+' List.mem_cons_self) (by decide)
      · obtain rfl : rest = digits := (List.cons.inj hcs).2
        exact h
  next hsign =>
    constructor
    · exact fun h => ⟨cs, .inl rfl, h⟩
    · rintro ⟨digits, rfl | rfl, h⟩
      · exact h
      · exact absurd rfl (hsign digits)

/-! ### Dates -/

/-- The characters of a decimal number are not white space and start no name. -/
def IsSign (c : Char) : Prop := c.isDigit = true ∨ c = '+'

theorem not_isBlank_of_isSign {c : Char} (h : IsSign c) : Text.isBlank c = false := by
  have hrange : c.toNat = 43 ∨ 48 ≤ c.toNat ∧ c.toNat ≤ 57 := by
    rcases h with hdigit | rfl
    · exact .inr (Char.isDigit_iff_toNat.mp hdigit)
    · exact .inl rfl
  simp only [Text.isBlank, Bool.or_eq_false_iff, Bool.and_eq_false_iff, beq_eq_false_iff_ne,
    decide_eq_false_iff_not]
  omega

open MailDate

/-- A decimal number starts with no name of a day. -/
theorem readName?_dayNames_of_isSign {c : Char} (h : IsSign c) (rest : List Char) :
    readName? dayNames (c :: rest) = none := by
  have hnames : ∀ name ∈ dayNames, (name.head?.any Char.isAlpha) = true := by decide
  have hlower : c.toLower.isAlpha = false := by
    rcases h with hdigit | rfl
    · have hrange := Char.isDigit_iff_toNat.mp hdigit
      have hall : ∀ n < 58, 48 ≤ n → (Char.ofNat n).toLower.isAlpha = false := by decide
      rw [← Char.ofNat_toNat c]
      exact hall _ (Nat.lt_succ_of_le hrange.2) hrange.1
    · decide
  rw [readName?, Option.map_eq_none_iff, List.findIdx?_eq_none_iff]
  intro name hname
  rw [beq_eq_false_iff_ne]
  rintro rfl
  have halpha := hnames _ hname
  simp [hlower] at halpha

theorem readSpace?_drop_eq_none {digits : List Char} (h : ∀ c ∈ digits, c.isDigit = true)
    (k : Nat) : readSpace? (digits.drop k) = none := by
  cases hrest : digits.drop k with
  | nil => rfl
  | cons c rest =>
    have hmem : c ∈ digits := List.mem_of_mem_drop (hrest ▸ List.mem_cons_self)
    rw [readSpace?, not_isBlank_of_isSign (.inl (h c hmem))]
    rfl

/-- No decimal number is a date. -/
theorem read?_eq_none_of_isNumeral (h : IsNumeral cs n) : read? cs = none := by
  obtain ⟨digits, hcs, hne, hdigits, -⟩ := h
  obtain ⟨c, rest, rfl, hsign⟩ : ∃ c rest, cs = c :: rest ∧ IsSign c := by
    rcases hcs with rfl | rfl
    · obtain ⟨c, rest, rfl⟩ := List.exists_cons_of_ne_nil hne
      exact ⟨c, rest, rfl, .inl (hdigits c List.mem_cons_self)⟩
    · exact ⟨'+', digits, rfl, .inr rfl⟩
  have hskip : skip (c :: rest) = c :: rest :=
    List.dropWhile_cons_of_neg (Bool.eq_false_iff.mp (not_isBlank_of_isSign hsign))
  have hweekday : readWeekday? (c :: rest) = some (none, c :: rest) := by
    rw [readWeekday?, readName?_dayNames_of_isSign hsign]
  -- What follows the day of the month is digits, and no white space comes.
  have hspace : ∀ day after, readNumber? 1 2 (c :: rest) = some (day, after) →
      readSpace? after = none := by
    intro day after hday
    rw [readNumber?] at hday
    rcases hcs with rfl | hcs
    · split at hday
      · cases hday
      · obtain ⟨_, -, hafter⟩ := Option.map_eq_some_iff.mp hday
        rw [← (Prod.mk.inj hafter).2]
        exact readSpace?_drop_eq_none hdigits _
    · -- A plus sign is not the first digit of a day.
      obtain ⟨rfl, -⟩ := List.cons.inj hcs
      cases hday
  rw [read?, hskip, hweekday, Option.bind_eq_bind, Option.bind_some]
  dsimp only
  rw [hskip]
  cases hday : readNumber? 1 2 (c :: rest) with
  | none => rfl
  | some read =>
    rw [Option.bind_eq_bind, Option.bind_some, hspace read.1 read.2 hday]
    rfl

/-! ### Waits -/

variable {value : String} {now date : Instant} {time : Duration}

/-- The whole seconds of a wait are within the limit up to the second after it. -/
theorem accept_eq (time : Duration) : accept time =
    if time.nanos < (Duration.ofSeconds (limit + 1)).nanos then some time else none := by
  have hseconds : time.seconds ≤ limit ↔ time.nanos < (Duration.ofSeconds (limit + 1)).nanos := by
    rw [← Nat.lt_succ_iff]
    exact Nat.div_lt_iff_lt_mul (by decide)
  rw [accept]
  simp only [hseconds]

theorem wait?_of_isNumeral (h : IsNumeral (Text.trim value.toList) n) :
    wait? value now = if n ≤ limit then some (.ofSeconds n) else none := by
  have hseconds : (Duration.ofSeconds n).seconds = n := Nat.mul_div_cancel n (by decide)
  rw [wait?, seconds?_eq_some_iff.mpr h]
  dsimp only
  rw [accept, hseconds]

theorem wait?_of_date (h : MailDate.read? (Text.trim value.toList) = some date) :
    wait? value now = accept (now.timeTo date) := by
  cases hseconds : seconds? (Text.trim value.toList) with
  | none => rw [wait?, hseconds, h, Option.bind_some]
  | some n => rw [read?_eq_none_of_isNumeral (seconds?_eq_some_iff.mp hseconds)] at h; cases h

theorem wait?_eq_none (hnumeral : ∀ n, ¬ IsNumeral (Text.trim value.toList) n)
    (hdate : MailDate.read? (Text.trim value.toList) = none) : wait? value now = none := by
  have hseconds : seconds? (Text.trim value.toList) = none :=
    Option.eq_none_iff_forall_not_mem.mpr fun n hn => hnumeral n (seconds?_eq_some_iff.mp hn)
  rw [wait?, hseconds, hdate, Option.bind_none]

/-- Every wait that is accepted ends before the second after the limit does. -/
theorem nanos_lt_of_wait? (h : wait? value now = some time) :
    time.nanos < (Duration.ofSeconds (limit + 1)).nanos := by
  have haccept : ∀ asked, accept asked = some time →
      time.nanos < (Duration.ofSeconds (limit + 1)).nanos := by
    intro asked haccept
    rw [accept_eq] at haccept
    split at haccept
    next hlt => rwa [← Option.some.inj haccept]
    next => cases haccept
  unfold wait? at h
  dsimp only at h
  split at h
  · exact haccept _ h
  · obtain ⟨date, -, hdate⟩ := Option.bind_eq_some_iff.mp h
    exact haccept _ hdate

/-! ### Waits of a fetch -/

section

open Fetcher Fetch

variable {f : Fetcher} {url : Url} {made : Nat} {response : Response}

/-- The wait after a response that asks for one is the one that it asks for. -/
theorem wait?_of_verdict (hvalue : response.Sends "retry-after" value)
    (h : f.verdict url now made (.ok response) = .wait time) : wait? value now = some time := by
  rw [verdict] at h
  split at h
  · split at h
    · cases h
    · rw [waitAfter, Response.header?_eq_some_iff.mpr hvalue] at h
      dsimp only at h
      split at h
      next asked hasked => rw [hasked, Verdict.wait.inj h]
      next => cases h
  · cases h

end

/-- A text that is a decimal number asks for that many seconds, up to the limit. A date asks for no
wait if it has passed, and else for the time up to it, if that ends before the second after the
limit does. No other text asks for a wait. Between two attempts of a fetch, with or without a
deadline, there is the stall of the first and then the wait that its response asks for, which so
ends before the second after the limit does. -/
theorem asked_waits_are_limited (value : String) (now : Instant) :
    (∀ n, IsNumeral (Text.trim value.toList) n →
      wait? value now = if n ≤ limit then some (.ofSeconds n) else none) ∧
    (∀ date, MailDate.read? (Text.trim value.toList) = some date →
      (date.nanos ≤ now.nanos → wait? value now = some .zero) ∧
      (now.nanos < date.nanos →
        date.nanos - now.nanos < (Duration.ofSeconds (limit + 1)).nanos →
        ∃ time, wait? value now = some time ∧ (time.nanos : Int) = date.nanos - now.nanos) ∧
      ((Duration.ofSeconds (limit + 1)).nanos ≤ date.nanos - now.nanos →
        wait? value now = none)) ∧
    ((∀ n, ¬ IsNumeral (Text.trim value.toList) n) →
      MailDate.read? (Text.trim value.toList) = none → wait? value now = none) ∧
    ∀ (f : Fetcher) (url : Url) (asked : Nat) (start : Duration) (deadline : Option Duration)
      (made : Nat) (first second : Duration) (response : Response),
      (f.fetch url asked start deadline).starts[made]? = some first →
      (f.fetch url asked start deadline).starts[made + 1]? = some second →
      (f.transport url (asked + made)).outcome = .ok response →
      response.Sends "retry-after" value →
      ∃ time, wait? value (f.clock (first + (f.transport url (asked + made)).stall)) = some time ∧
        second = first + (f.transport url (asked + made)).stall + time ∧
        time.nanos < (Duration.ofSeconds (limit + 1)).nanos := by
  refine ⟨fun n => wait?_of_isNumeral, fun date hdate => ?_, wait?_eq_none, ?_⟩
  · rw [wait?_of_date hdate, accept_eq]
    have hwait : (now.timeTo date).nanos = (date.nanos - now.nanos).toNat := rfl
    refine ⟨fun hpast => ?_, fun hlater hlimit => ?_, fun hlimit => if_neg (by omega)⟩
    · have hnone : now.timeTo date = .zero :=
        congrArg Duration.mk (Int.toNat_eq_zero.mpr (by omega))
      rw [hnone]
      rfl
    · exact ⟨now.timeTo date, if_pos (by omega), by omega⟩
  · intro f url asked start deadline made first second response hfirst hsecond houtcome hvalue
    obtain ⟨-, hattempt⟩ := (Fetcher.getElem?_starts_succ_iff hfirst).mp hsecond
    rw [Nat.zero_add] at hattempt
    obtain ⟨-, -, time, hverdict, rfl⟩ := Fetcher.attempt_eq_again_iff.mp hattempt
    rw [houtcome] at hverdict
    have hwait := wait?_of_verdict hvalue hverdict
    exact ⟨time, hwait, rfl, nanos_lt_of_wait? hwait⟩

/-- A date that is half a second more than the limit away is accepted. -/
theorem asked_waits_are_limited_half_second :
    let value := "Wed, 21 Oct 2015 10:14:41 GMT"
    let now : Instant := ⟨1445412480500000000⟩
    let date : Instant := ⟨1445422481000000000⟩
    MailDate.read? (Text.trim value.toList) = some date ∧ now.nanos < date.nanos ∧
      date.nanos - now.nanos < (Duration.ofSeconds (limit + 1)).nanos ∧
      ∃ time, wait? value now = some time ∧ (time.nanos : Int) = date.nanos - now.nanos ∧
        (Duration.ofSeconds limit).nanos < time.nanos := by
  intro value now date
  have hdate : MailDate.read? (Text.trim value.toList) = some date := by decide +kernel
  have hlater : now.nanos < date.nanos := by decide
  have hlimit : date.nanos - now.nanos < (Duration.ofSeconds (limit + 1)).nanos := by decide
  obtain ⟨time, hwait, htime⟩ :=
    ((asked_waits_are_limited value now).2.1 date hdate).2.1 hlater hlimit
  have hbeyond : ((Duration.ofSeconds limit).nanos : Int) < date.nanos - now.nanos := by decide
  exact ⟨hdate, hlater, hlimit, time, hwait, htime, by omega⟩

end RetryAfter

end ImageImports
