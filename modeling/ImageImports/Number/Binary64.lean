/-!
# Double precision

Non-negative numbers of the form `m * 2 ^ e` with a mantissa of at most fifty-three bits. Every
operation gives the number of that form nearest to the exact result, the one with the even
mantissa when two are equally near.

## Main definitions

* `Binary64`: a mantissa and an exponent.
* `Binary64.ofRatio?`: the number nearest to a fraction, unless it is too large.
* `Binary64.scale?`: a number times a power of ten.
-/

namespace ImageImports

/-- The number `mantissa * 2 ^ exponent`. -/
structure Binary64 where
  mantissa : Nat
  exponent : Int
  deriving DecidableEq, Repr

namespace Binary64

/-- Zero. -/
def zero : Binary64 := ⟨0, -1074⟩

/-- A number as a fraction of two natural numbers. -/
def toRatio (x : Binary64) : Nat × Nat :=
  match x.exponent with
  | .ofNat k => (x.mantissa * Nat.pow 2 k, 1)
  | .negSucc k => (x.mantissa, Nat.pow 2 (k + 1))

/-- A fraction divided by a power of two. -/
def scaleRatio (num den : Nat) (exponent : Int) : Nat × Nat :=
  match exponent with
  | .ofNat k => (num, den * Nat.pow 2 k)
  | .negSucc k => (num * Nat.pow 2 (k + 1), den)

/-- The integer nearest to a fraction, the even one when two are equally near. -/
def roundDiv (num den : Nat) : Nat :=
  let quotient := num / den
  let twice := 2 * (num % den)
  if twice < den then quotient
  else if den < twice then quotient + 1
  else quotient + quotient % 2

/-- The least exponent that leaves a fraction a mantissa below `2 ^ 53`, but at least
`-1074`. -/
def fitExponent (num den : Nat) : Int :=
  let guess : Int := (num.log2 : Int) - (den.log2 : Int) - 53
  let (n, d) := scaleRatio num den guess
  let exponent := if n / d < Nat.pow 2 53 then guess else guess + 1
  max exponent (-1074)

/-- The number nearest to a fraction; a fraction that rounds to `2 ^ 1024` or more has none. -/
def ofRatio? (num den : Nat) : Option Binary64 :=
  if num = 0 then some zero
  else
    let exponent := fitExponent num den
    let (n, d) := scaleRatio num den exponent
    let mantissa := roundDiv n d
    let result : Binary64 :=
      if mantissa = Nat.pow 2 53 then ⟨Nat.pow 2 52, exponent + 1⟩ else ⟨mantissa, exponent⟩
    if 971 < result.exponent then none else some result

/-- The product of two numbers, rounded. -/
def mul? (x y : Binary64) : Option Binary64 :=
  let (a, b) := x.toRatio
  let (c, d) := y.toRatio
  ofRatio? (a * c) (b * d)

/-- The quotient of two numbers, rounded. -/
def div? (x y : Binary64) : Option Binary64 :=
  let (a, b) := x.toRatio
  let (c, d) := y.toRatio
  ofRatio? (a * d) (b * c)

/-- The number nearest to a power of ten. -/
def powerOfTen? (k : Nat) : Option Binary64 := ofRatio? (Nat.pow 10 k) 1

/-- A number divided by a power of ten, in steps of at most `10 ^ 308` that are rounded one by
one. -/
def scaleDown? (x : Binary64) (k : Nat) : Option Binary64 :=
  if k ≤ 308 then (powerOfTen? k).bind (div? x)
  else if x.mantissa = 0 then some x
  else ((powerOfTen? 308).bind (div? x)).bind fun y => scaleDown? y (k - 308)
termination_by k

/-- A number times a power of ten: both factors are rounded, and then their product. -/
def scale? (x : Binary64) : Int → Option Binary64
  | .ofNat k =>
    if k ≤ 308 then (powerOfTen? k).bind (mul? x)
    else if x.mantissa = 0 then some x
    else none
  | .negSucc k => scaleDown? x (k + 1)

end Binary64

end ImageImports
