import ImageImports.Number.Binary64

/-!
# Number literals

A JSON number as it is written, and its value. A literal without point and exponent that fits
into 64 bits, with or without sign, is an integer. Every other one is a double.

## Main definitions

* `Json.Literal`: sign, digits before and after the point, and exponent.
* `Json.Literal.value?`: the value, unless it is too large for a double.
-/

namespace ImageImports.Json

/-- A number as it is written. -/
structure Literal where
  negative : Bool
  whole : List Char
  fraction : Option (List Char)
  exponent : Option (Bool × List Char)
  deriving DecidableEq, Repr

/-- The value of a number. -/
inductive Number where
  | integer (n : Int)
  | double (negative : Bool) (magnitude : Binary64)
  deriving DecidableEq, Repr

namespace Literal

/-- The value of a decimal digit. -/
def digitValue (c : Char) : Nat := c.toNat - 48

/-- The largest number of 64 bits. -/
def wordLimit : Nat := Nat.pow 2 64 - 1

/-- Digits read onto a number while it fits into 64 bits: the number, and the digits that are
left from the first one that did not fit. -/
def takeDigits : Nat → List Char → Nat × List Char
  | n, [] => (n, [])
  | n, c :: rest =>
    let next := n * 10 + digitValue c
    if next ≤ wordLimit then takeDigits next rest else (n, c :: rest)

/-- The value of the digits of an exponent, while it fits into 31 bits. -/
def exponentValue? : Nat → List Char → Option Nat
  | n, [] => some n
  | n, c :: rest =>
    let next := n * 10 + digitValue c
    if next ≤ 2147483647 then exponentValue? next rest else none

/-- A double with a sign. -/
def signed (negative : Bool) (magnitude : Option Binary64) : Option Number :=
  magnitude.map (.double negative)

/-- A number of at most 64 bits times a power of ten, after the exponent of the literal was
added to the power. An exponent beyond 31 bits makes zero of everything when it is negative, and
is refused when it is positive, unless the number is zero. -/
def scaled (l : Literal) (significand : Nat) (power : Int) : Option Number :=
  let start := Binary64.ofRatio? significand 1
  match l.exponent with
  | none => signed l.negative (start.bind (·.scale? power))
  | some (down, digits) =>
    match exponentValue? 0 digits with
    | none =>
      if significand ≠ 0 ∧ down = false then none
      else signed l.negative (some Binary64.zero)
    | some e =>
      let total : Int := if down then power - e else power + e
      let bounded := max (-2147483648) (min 2147483647 total)
      signed l.negative (start.bind (·.scale? bounded))

/-- The value of a literal. Digits that do not fit into 64 bits are dropped: before the point
they raise the power of ten, after it they count for nothing. -/
def value? (l : Literal) : Option Number :=
  let (significand, dropped) := takeDigits 0 l.whole
  let power : Int := dropped.length
  match l.fraction with
  | some digits =>
    let (longer, left) := takeDigits significand digits
    l.scaled longer (power - (digits.length - left.length : Nat))
  | none =>
    match l.exponent, dropped with
    | none, [] =>
      if l.negative then
        if significand = 0 ∨ Nat.pow 2 63 < significand then
          signed true (Binary64.ofRatio? significand 1)
        else some (.integer (-significand))
      else some (.integer significand)
    | _, _ => l.scaled significand power

end Literal

end ImageImports.Json
