import ImageImports.Json.Literal

/-!
# Natural numbers in JSON

A literal without sign, point and exponent is a natural number, and it is read as such as long as
it fits into 64 bits. No other literal is read as a number that is not negative and no double.

## Main definitions

* `Json.Literal.natural?`: the natural number that a literal is.

## Main results

* `Json.Literal.value?_eq_natural_iff`: which literals are read as natural numbers.
-/

namespace ImageImports.Json.Literal

/-- The number that some digits spell, after those of another number. -/
def readDigits (n : Nat) (digits : List Char) : Nat :=
  digits.foldl (fun n c => n * 10 + digitValue c) n

/-- The natural number that a literal is, if it has no sign, no point and no exponent. -/
def natural? (l : Literal) : Option Nat :=
  if l.negative = false ∧ l.fraction = none ∧ l.exponent = none then some (readDigits 0 l.whole)
  else none

theorem le_readDigits (n : Nat) (digits : List Char) : n ≤ readDigits n digits := by
  induction digits generalizing n with
  | nil => exact Nat.le_refl n
  | cons c rest ih =>
    have hnext := ih (n * 10 + digitValue c)
    rw [readDigits, List.foldl_cons]
    rw [readDigits] at hnext
    omega

/-- All digits are taken exactly if their number fits into 64 bits. -/
theorem takeDigits_eq_iff {n m : Nat} (hn : n ≤ wordLimit) (digits : List Char) :
    takeDigits n digits = (m, []) ↔ readDigits n digits = m ∧ m ≤ wordLimit := by
  induction digits generalizing n with
  | nil =>
    rw [takeDigits, readDigits, List.foldl_nil]
    constructor
    · rintro ⟨⟩
      exact ⟨rfl, hn⟩
    · rintro ⟨rfl, -⟩
      rfl
  | cons c rest ih =>
    rw [takeDigits, readDigits, List.foldl_cons]
    split
    next hnext => exact ih hnext
    next hnext =>
      have hle := le_readDigits (n * 10 + digitValue c) rest
      rw [readDigits] at hle
      constructor
      · rintro ⟨⟩
      · rintro ⟨rfl, hm⟩
        exact absurd (Nat.le_trans hle hm) hnext

theorem signed_ne_integer {negative : Bool} {magnitude : Option Binary64} {n : Int} :
    signed negative magnitude ≠ some (.integer n) := by
  cases magnitude <;> nofun

theorem scaled_ne_integer (l : Literal) {significand : Nat} {power n : Int} :
    l.scaled significand power ≠ some (.integer n) := by
  rw [scaled]
  repeat' split
  all_goals first | exact signed_ne_integer | nofun

/-- A literal is read as a natural number exactly if it is one that fits into 64 bits. -/
theorem value?_eq_natural_iff {l : Literal} {n : Nat} :
    l.value? = some (.integer n) ↔ l.natural? = some n ∧ n ≤ wordLimit := by
  have hdigits (m : Nat) : takeDigits 0 l.whole = (m, []) ↔
      readDigits 0 l.whole = m ∧ m ≤ wordLimit := takeDigits_eq_iff (Nat.zero_le _) _
  rw [value?, natural?]
  generalize takeDigits 0 l.whole = taken at hdigits ⊢
  obtain ⟨significand, dropped⟩ := taken
  cases hfraction : l.fraction with
  | some digits => simp [scaled_ne_integer]
  | none =>
    cases hexponent : l.exponent with
    | some exponent => simp [scaled_ne_integer]
    | none =>
      cases dropped with
      | cons c rest =>
        have hlarge (h : readDigits 0 l.whole ≤ wordLimit) : False := by
          cases (hdigits _).mpr ⟨rfl, h⟩
        simp only [scaled_ne_integer, and_self, and_true, Option.ite_none_right_eq_some,
          Option.some.injEq, false_iff, not_and, and_imp]
        rintro - rfl
        exact hlarge
      | nil =>
        obtain ⟨hread, hlimit⟩ := (hdigits significand).mp rfl
        cases hnegative : l.negative with
        | true =>
          simp only [Bool.true_eq_false, false_and, if_false, reduceCtorEq, if_true]
          refine iff_of_false (fun h => ?_) id
          by_cases hdouble : significand = 0 ∨ Nat.pow 2 63 < significand
          · rw [if_pos hdouble] at h
            exact signed_ne_integer h
          · rw [if_neg hdouble] at h
            have hneg := Number.integer.inj (Option.some.inj h)
            omega
        | false =>
          simp only [hread, and_self, if_true, Option.some.injEq, Number.integer.injEq,
            Int.natCast_inj, Bool.false_eq_true, if_false]
          exact ⟨fun h => ⟨h, h ▸ hlimit⟩, And.left⟩

end ImageImports.Json.Literal
