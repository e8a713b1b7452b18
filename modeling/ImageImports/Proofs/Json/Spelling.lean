import ImageImports.Proofs.Json.Grammar
import Mathlib.Data.List.TakeWhile

/-!
# Cutting texts into tokens

A text that spells some tokens is cut into these tokens. Every scanner takes a spelling off the
start of a text and leaves what comes after it, as long as that does not go on as the spelling
could.

## Main definitions

* `Json.StopsAt`: a text does not start with some characters.
* `Json.scanUnsigned?`: the scanner of numbers after their sign.

## Main results

* `Json.scanString?_append`: the scanner of strings.
* `Json.scanNumber?_append`: the scanner of numbers.
* `Json.scanToken_append`: the scanner of tokens.
* `Json.Spells.tokensWithin_eq`: the tokens of a text.
-/

namespace ImageImports.Json

/-! ### Strings -/

theorem hexValue?_of_mem {c : Char} {n : Nat} (h : (c, n) ∈ hexDigits) : hexValue? c = some n := by
  have hall : ∀ digit ∈ hexDigits, hexValue? digit.1 = some digit.2 := by decide +kernel
  exact hall _ h

theorem escape?_of_mem {e c : Char} (h : (e, c) ∈ letterEscapes) : escape? e = some c := by
  have hall : ∀ escape ∈ letterEscapes, escape? escape.1 = some escape.2 := by decide
  exact hall _ h

theorem ne_of_mem_letterEscapes {e c : Char} (h : (e, c) ∈ letterEscapes) : e ≠ 'u' := by
  have hall : ∀ escape ∈ letterEscapes, escape.1 ≠ 'u' := by decide
  exact hall _ h

variable {s rest : List Char}

theorem scanString?_plain {c : Char} (h : isPlain c = true) (rest : List Char) :
    scanString? (c :: rest) =
      (scanString? rest).map fun found => (.char c :: found.1, found.2) := by
  simp only [isPlain, Bool.and_eq_true, bne_iff_ne, decide_eq_true_eq] at h
  obtain ⟨⟨hquote, hescape⟩, hcontrol⟩ := h
  have hread : (c == '\\' || decide (c.toNat < 0x20)) = false := by
    simp [hescape, Nat.not_lt.mpr hcontrol]
  rw [scanString?, hread]
  · cases scanString? rest <;> rfl
  · exact hquote
  · exact fun _ _ _ _ _ heq => absurd heq hescape
  · exact fun _ _ heq => absurd heq hescape

theorem scanString?_letter {e c : Char} (h : (e, c) ∈ letterEscapes) (rest : List Char) :
    scanString? ('\\' :: e :: rest) =
      (scanString? rest).map fun found => (.char c :: found.1, found.2) := by
  rw [scanString?, escape?_of_mem h]
  · cases scanString? rest <;> rfl
  · exact fun _ _ _ _ _ heq => absurd heq (ne_of_mem_letterEscapes h)

theorem scanString?_unit {a b c d : Char} {w x y z : Nat} (ha : (a, w) ∈ hexDigits)
    (hb : (b, x) ∈ hexDigits) (hc : (c, y) ∈ hexDigits) (hd : (d, z) ∈ hexDigits)
    (rest : List Char) :
    scanString? ('\\' :: 'u' :: a :: b :: c :: d :: rest) = (scanString? rest).map fun found =>
      (.escaped (((w * 16 + x) * 16 + y) * 16 + z) :: found.1, found.2) := by
  simp only [scanString?, codeUnit?, hexValue?_of_mem ha, hexValue?_of_mem hb,
    hexValue?_of_mem hc, hexValue?_of_mem hd]
  cases scanString? rest <;> rfl

theorem scanString?_mark {mark : Mark} (h : MarkText mark s) (rest : List Char) :
    scanString? (s ++ rest) =
      (scanString? rest).map fun found => (mark.piece :: found.1, found.2) := by
  cases h with
  | plain hplain => exact scanString?_plain hplain rest
  | letter hmem => exact scanString?_letter hmem rest
  | unit ha hb hc hd hcode =>
    rw [Mark.piece, hcode]
    exact scanString?_unit ha hb hc hd rest

/-- A string is scanned up to its closing quote. -/
theorem scanString?_append {marks : List Mark} (h : MarksText marks s) (rest : List Char) :
    scanString? (s ++ '"' :: rest) = some (marks.map Mark.piece, rest) := by
  induction h with
  | nil => rfl
  | cons hmark _ ih =>
    rw [List.append_assoc, scanString?_mark hmark, ih, Option.map_some, List.map_cons]

/-! ### Numbers -/

theorem IsDigits.exists_cons (h : IsDigits s) : ∃ c tail, s = c :: tail ∧ c.isDigit = true := by
  obtain ⟨c, tail, rfl⟩ := List.exists_cons_of_ne_nil h.1
  exact ⟨c, tail, rfl, h.2 c List.mem_cons_self⟩

theorem ne_of_isDigit {c other : Char} (h : c.isDigit = true) (hother : other.isDigit = false) :
    c ≠ other := by
  rintro rfl
  exact Bool.false_ne_true (hother.symm.trans h)

/-- A text does not start with some characters. -/
def StopsAt (p : Char → Bool) (s : List Char) : Prop := ∀ c ∈ s.head?, p c = false

theorem scanDigits_append {digits : List Char} (h : ∀ c ∈ digits, c.isDigit = true)
    (hrest : StopsAt Char.isDigit rest) : scanDigits (digits ++ rest) = (digits, rest) := by
  have htake : rest.takeWhile Char.isDigit = [] := by
    cases rest with
    | nil => rfl
    | cons c rest => rw [List.takeWhile_cons, hrest c rfl, if_neg Bool.false_ne_true]
  have hdrop : rest.dropWhile Char.isDigit = rest := by
    cases rest with
    | nil => rfl
    | cons c rest => rw [List.dropWhile_cons, hrest c rfl, if_neg Bool.false_ne_true]
  rw [scanDigits, List.takeWhile_append_of_pos h, List.dropWhile_append_of_pos h, htake, hdrop,
    List.append_nil]

theorem stopsAt_of_continuesNumber (h : continuesNumber rest = false) {p : Char → Bool}
    (hp : ∀ c, p c = true → (c.isDigit || c == '.' || c == 'e' || c == 'E') = true) :
    StopsAt p rest := by
  rintro c hc
  cases rest with
  | nil => cases hc
  | cons c' rest =>
    cases Option.some.inj hc
    rw [continuesNumber] at h
    by_contra hpc
    rw [Bool.not_eq_false] at hpc
    rw [hp c hpc] at h
    cases h

theorem scanWhole?_append {whole : List Char} (hwhole : IsDigits whole)
    (hzero : whole.head? = some '0' → whole = ['0']) (hrest : StopsAt Char.isDigit rest) :
    scanWhole? (whole ++ rest) = some (whole, rest) := by
  rw [scanWhole?, scanDigits_append hwhole.2 hrest]
  split
  next heq => exact absurd (Prod.mk.inj heq).1 hwhole.1
  next heq =>
    obtain ⟨rfl, -⟩ := Prod.mk.inj heq
    cases hzero rfl
  next => rfl

theorem scanFraction?_append {fraction : Option (List Char)} (h : FractionText fraction s)
    (hrest : StopsAt (fun c => c.isDigit || c == '.') rest) :
    scanFraction? (s ++ rest) = some (fraction, rest) := by
  have hdigits : StopsAt Char.isDigit rest := fun c hc =>
    (Bool.or_eq_false_iff.mp (hrest c hc)).1
  cases h with
  | absent =>
    rw [List.nil_append, scanFraction?.eq_def]
    split
    next tail => simpa using hrest '.' rfl
    next => rfl
  | @present digits hfraction =>
    rw [List.cons_append, scanFraction?, scanDigits_append hfraction.2 hdigits]
    split
    next heq => exact absurd (Prod.mk.inj heq).1 hfraction.1
    next heq =>
      obtain ⟨rfl, rfl⟩ := Prod.mk.inj heq
      rfl

theorem scanSign_append {down : Bool} {sign digits : List Char} (h : (down, sign) ∈ exponentSigns)
    (hdigits : IsDigits digits) (rest : List Char) :
    scanSign (sign ++ (digits ++ rest)) = (down, digits ++ rest) := by
  obtain ⟨c, tail, rfl, hc⟩ := hdigits.exists_cons
  simp only [exponentSigns, List.mem_cons, Prod.mk.injEq, List.not_mem_nil, or_false] at h
  obtain ⟨rfl, rfl⟩ | ⟨rfl, rfl⟩ | ⟨rfl, rfl⟩ := h
  · rw [List.nil_append, List.cons_append, scanSign]
    · exact fun _ heq => ne_of_isDigit hc (by decide) (List.cons.inj heq).1
    · exact fun _ heq => ne_of_isDigit hc (by decide) (List.cons.inj heq).1
  · rfl
  · rfl

theorem scanExponent?_append {exponent : Option (Bool × List Char)} (h : ExponentText exponent s)
    (hrest : StopsAt (fun c => c.isDigit || c == 'e' || c == 'E') rest) :
    scanExponent? (s ++ rest) = some (exponent, rest) := by
  cases h with
  | absent =>
    cases rest with
    | nil => rfl
    | cons c rest =>
      have hc := hrest c rfl
      simp only [Bool.or_eq_false_iff] at hc
      rw [List.nil_append, scanExponent?, hc.1.2, hc.2]
      rfl
  | @present letter down sign digits hletter hsign hdigits =>
    have hstart : (letter == 'e' || letter == 'E') = true := by simpa using hletter
    have hstop : StopsAt Char.isDigit rest := fun c hc => by
      have hrest := hrest c hc
      simp only [Bool.or_eq_false_iff] at hrest
      exact hrest.1.1
    rw [List.cons_append, List.append_assoc, scanExponent?, if_pos hstart,
      scanSign_append hsign hdigits]
    dsimp only
    rw [scanDigits_append hdigits.2 hstop]
    split
    next heq => exact absurd (Prod.mk.inj heq).1 hdigits.1
    next heq =>
      obtain ⟨rfl, rfl⟩ := Prod.mk.inj heq
      rfl

theorem FractionText.stopsAt {fraction : Option (List Char)} (h : FractionText fraction s)
    (hrest : StopsAt Char.isDigit rest) : StopsAt Char.isDigit (s ++ rest) := by
  cases h with
  | absent => exact hrest
  | present =>
    rintro c hc
    cases Option.some.inj hc
    rfl

theorem ExponentText.stopsAt {exponent : Option (Bool × List Char)} (h : ExponentText exponent s)
    (hrest : StopsAt (fun c => c.isDigit || c == '.') rest) :
    StopsAt (fun c => c.isDigit || c == '.') (s ++ rest) := by
  cases h with
  | absent => exact hrest
  | present hletter =>
    rintro c hc
    cases Option.some.inj hc
    obtain rfl | rfl := hletter <;> rfl

/-- A number after its sign, and the text after it. -/
def scanUnsigned? (negative : Bool) (s : List Char) : Option (Literal × List Char) := do
  let (whole, s) ← scanWhole? s
  let (fraction, s) ← scanFraction? s
  let (exponent, s) ← scanExponent? s
  return (⟨negative, whole, fraction, exponent⟩, s)

theorem scanNumber?_of_ne {c : Char} (h : c ≠ '-') (s : List Char) :
    scanNumber? (c :: s) = scanUnsigned? false (c :: s) := by
  rw [scanNumber?]
  · rfl
  · exact fun _ heq => h (List.cons.inj heq).1

theorem scanUnsigned?_append {literal : Literal} {fraction exponent : List Char}
    (hwhole : IsDigits literal.whole)
    (hzero : literal.whole.head? = some '0' → literal.whole = ['0'])
    (hfraction : FractionText literal.fraction fraction)
    (hexponent : ExponentText literal.exponent exponent) (hrest : continuesNumber rest = false) :
    scanUnsigned? literal.negative (literal.whole ++ (fraction ++ exponent) ++ rest) =
      some (literal, rest) := by
  have hafter : StopsAt (fun c => c.isDigit || c == '.') (exponent ++ rest) :=
    hexponent.stopsAt (stopsAt_of_continuesNumber hrest fun c => by grind)
  have hstop : StopsAt Char.isDigit (fraction ++ (exponent ++ rest)) :=
    hfraction.stopsAt fun c hc => (Bool.or_eq_false_iff.mp (hafter c hc)).1
  have hend : scanExponent? (exponent ++ rest) = some (literal.exponent, rest) :=
    scanExponent?_append hexponent (stopsAt_of_continuesNumber hrest fun c => by grind)
  simp only [scanUnsigned?, List.append_assoc, scanWhole?_append hwhole hzero hstop,
    scanFraction?_append hfraction hafter, hend, Option.bind_eq_bind, Option.bind_some,
    Option.pure_def]

/-- A number is scanned as far as it goes. -/
theorem scanNumber?_append {literal : Literal} (h : NumberText literal s)
    (hrest : continuesNumber rest = false) : scanNumber? (s ++ rest) = some (literal, rest) := by
  obtain ⟨hwhole, hzero, hfraction, hexponent⟩ := h
  have hscan := scanUnsigned?_append hwhole hzero hfraction hexponent hrest
  rw [List.append_assoc]
  cases hnegative : literal.negative with
  | true =>
    rw [hnegative] at hscan
    exact hscan
  | false =>
    obtain ⟨c, tail, hcons, hc⟩ := hwhole.exists_cons
    rw [hnegative, hcons] at hscan
    rw [if_neg Bool.false_ne_true, List.nil_append, hcons]
    exact (scanNumber?_of_ne (ne_of_isDigit hc (by decide)) _).trans hscan

/-! ### Tokens -/

theorem scanToken_fixed {token : Token} (h : (token, s) ∈ fixedLexemes) (rest : List Char) :
    scanToken (s ++ rest) = (token, rest) := by
  simp only [fixedLexemes, List.mem_cons, Prod.mk.injEq, List.not_mem_nil, or_false] at h
  obtain ⟨rfl, rfl⟩ | ⟨rfl, rfl⟩ | ⟨rfl, rfl⟩ | ⟨rfl, rfl⟩ | ⟨rfl, rfl⟩ | ⟨rfl, rfl⟩ | ⟨rfl, rfl⟩ |
    ⟨rfl, rfl⟩ | ⟨rfl, rfl⟩ := h <;> rfl

theorem NumberText.head {literal : Literal} (h : NumberText literal s) :
    ∃ c tail, s = c :: tail ∧ (c.isDigit = true ∨ c = '-') := by
  obtain ⟨hwhole, -, -, -⟩ := h
  cases literal.negative with
  | true => exact ⟨_, _, rfl, .inr rfl⟩
  | false =>
    obtain ⟨c, tail, hcons, hc⟩ := hwhole.exists_cons
    rw [hcons]
    exact ⟨c, _, rfl, .inl hc⟩

/-- What starts with a digit or with a minus can only be a number. -/
theorem scanToken_eq_scanNumber? {c : Char} (h : c.isDigit = true ∨ c = '-') (tail : List Char) :
    scanToken (c :: tail) = match scanNumber? (c :: tail) with
      | some (literal, after) => (.number literal, after)
      | none => (.bad, []) := by
  have hne {other : Char} (hother : other.isDigit = false) (hminus : '-' ≠ other) : c ≠ other :=
    h.elim (ne_of_isDigit · hother) (fun hc => hc ▸ hminus)
  rw [scanToken.eq_def]
  split
  case h_11 => rfl
  all_goals
    next heq => exact absurd (List.cons.inj heq).1 (hne (by decide) (by decide))

/-- A token is scanned off the start of a text. -/
theorem scanToken_append {token : Token} (h : Lexeme token s)
    (hrest : ∀ literal, token = .number literal → continuesNumber rest = false) :
    scanToken (s ++ rest) = (token, rest) := by
  cases h with
  | fixed hmem => exact scanToken_fixed hmem rest
  | string hmarks =>
    rw [List.cons_append, List.append_assoc, List.singleton_append, scanToken,
      scanString?_append hmarks]
  | @number literal _ hnumber =>
    have hscan := scanNumber?_append hnumber (hrest literal rfl)
    obtain ⟨c, tail, rfl, hc⟩ := hnumber.head
    rw [List.cons_append] at hscan ⊢
    rw [scanToken_eq_scanNumber? hc, hscan]

theorem Lexeme.head {token : Token} (h : Lexeme token s) :
    ∃ c tail, s = c :: tail ∧ isGap c = false := by
  cases h with
  | fixed hmem =>
    have hall : ∀ lexeme ∈ fixedLexemes, (lexeme.2.head?.any fun c => !isGap c) = true := by decide
    obtain ⟨c, hc, hgap⟩ := (Option.any_eq_true _ _).mp (hall _ hmem)
    obtain ⟨tail, rfl⟩ := List.head?_eq_some_iff.mp hc
    exact ⟨c, tail, rfl, Bool.not_eq_eq_eq_not.mp hgap⟩
  | string => exact ⟨_, _, rfl, by decide⟩
  | number hnumber =>
    obtain ⟨c, tail, rfl, hc⟩ := hnumber.head
    refine ⟨c, tail, rfl, ?_⟩
    rw [Bool.eq_false_iff]
    intro hgap
    simp only [isGap, Bool.or_eq_true, beq_iff_eq] at hgap
    obtain hdigit | rfl := hc
    · obtain ((rfl | rfl) | rfl) | rfl := hgap <;> cases hdigit
    · revert hgap
      decide

/-- A text that spells some tokens is cut into them, if there are steps enough. -/
theorem Spells.tokensWithin_eq {ts : List Token} (h : Spells s ts) {steps : Nat}
    (hsteps : s.length < steps) : tokensWithin steps s = ts := by
  induction h generalizing steps with
  | done hgap =>
    obtain _ | steps := steps
    · rfl
    · rw [tokensWithin, List.dropWhile_eq_nil_iff.mpr hgap]
  | @next gap lexeme rest token ts hgap hlexeme hend _ ih =>
    obtain _ | steps := steps
    · exact absurd hsteps (Nat.not_lt_zero _)
    · have hscan := scanToken_append hlexeme hend
      obtain ⟨c, tail, rfl, hc⟩ := hlexeme.head
      have hstart : (gap ++ (c :: tail ++ rest)).dropWhile isGap = c :: (tail ++ rest) := by
        rw [List.dropWhile_append_of_pos hgap, List.cons_append, List.dropWhile_cons, hc,
          if_neg Bool.false_ne_true]
      rw [List.cons_append] at hscan
      rw [tokensWithin, hstart]
      dsimp only
      rw [hscan]
      refine congrArg _ (ih ?_)
      simp only [List.length_append, List.length_cons] at hsteps
      omega

theorem Spells.tokens_eq {text : String} {ts : List Token} (h : Spells text.toList ts) :
    tokens text = ts :=
  h.tokensWithin_eq (Nat.lt_succ_self _)

end ImageImports.Json
