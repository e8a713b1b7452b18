import ImageImports.Text.Category

/-!
# Punycode

A name of the web is written in ASCII. A label that starts with `xn--` spells one with other
characters: first its ASCII characters, then after a hyphen a row of numbers. Each number tells
how far the next character lies behind the one before it, counted through all characters and all
positions of the label.

## Main definitions

* `Url.Punycode.decode?`: the label that is spelled.
* `Url.Punycode.isValidLabel`: a label in ASCII spells one that a host may have.
-/

namespace ImageImports.Url.Punycode

/-- The value of a digit in base thirty-six: the letters come first. -/
def digitValue? (c : Char) : Option Nat :=
  if c.isLower then some (c.toNat - 'a'.toNat)
  else if c.isDigit then some (c.toNat - '0'.toNat + 26)
  else none

/-- The least digit that does not end a number, from its position and the bias. -/
def threshold (bias position : Nat) : Nat := max 1 (min 26 (position - bias))

/-- A large distance made small, and the positions that this takes. -/
def reduce (distance position : Nat) : Nat × Nat :=
  if 455 < distance then reduce (distance / 35) (position + 36) else (distance, position)
  termination_by distance
  decreasing_by omega

/-- The bias for the number after one that told a distance, in a label of a given length. -/
def nextBias (distance length : Nat) (isFirst : Bool) : Nat :=
  let scaled := if isFirst then distance / 700 else distance / 2
  let (small, position) := reduce (scaled + scaled / length) 0
  position + 36 * small / (small + 38)

/-- A label that is being read, and the number that is being read: what it has come to from which
start, the weight and the position of its next digit, and the bias. -/
structure Reader where
  label : List Char
  code : Nat
  start : Nat
  value : Nat
  weight : Nat
  position : Nat
  bias : Nat

/-- The reader before the first number. -/
def Reader.ofBasic (basic : List Char) : Reader := ⟨basic, 128, 0, 0, 1, 36, 72⟩

/-- The reader between two numbers, with a character put into the label at a place. -/
def Reader.insert (r : Reader) (place code bias : Nat) : Reader :=
  ⟨r.label.insertIdx place (Char.ofNat code), code, place + 1, place + 1, 1, 36, bias⟩

/-- The reader after one more digit. A digit below the threshold ends its number. -/
def Reader.step (r : Reader) (c : Char) : Option Reader :=
  (digitValue? c).bind fun digit =>
    let value := r.value + digit * r.weight
    let limit := threshold r.bias r.position
    if limit ≤ digit then
      some { r with value, weight := r.weight * (36 - limit), position := r.position + 36 }
    else
      let length := r.label.length + 1
      let code := r.code + value / length
      if code.isValidChar then
        some (r.insert (value % length) code (nextBias (value - r.start) length (r.start == 0)))
      else none

/-- The ASCII characters of a label, before the last hyphen, and the digits after it. -/
def parts (text : List Char) : List Char × List Char :=
  match text.reverse.span (· ≠ '-') with
  | (digits, _ :: basic) => (basic.reverse, digits.reverse)
  | (digits, []) => ([], digits.reverse)

/-- The label that is spelled. A number that is not ended spells none. -/
def decode? (text : List Char) : Option (List Char) :=
  let (basic, digits) := parts text
  (digits.foldlM Reader.step (.ofBasic basic)).bind fun r =>
    if r.position = 36 then some r.label else none

open Text

/-- The categories of characters that no label has: a label is written in small letters, and
nothing in it is invisible. -/
def unfit : List Category :=
  Category.separators ++ Category.others ++ [.uppercaseLetter, .titlecaseLetter]

/-- A label as it is meant may stand in a host: it is not all in ASCII, and does not start with a
mark. -/
def isFit (label : List Char) : Bool :=
  label.any (128 ≤ ·.toNat) && label.all (fun c => unfit.all fun category => !category.holds c) &&
    (label.head?.all fun c => Category.marks.all fun category => !category.holds c)

/-- A label in ASCII may stand in a host. -/
def isValidLabel (label : List Char) : Bool :=
  match label with
  | 'x' :: 'n' :: '-' :: '-' :: rest => (decode? rest).any isFit
  | _ => true

end ImageImports.Url.Punycode
