/-!
# Hexadecimal text

Two lower-case digits for each byte, the high half first.

## Main definitions

* `Hex.encode`: the text of a byte string.
* `Hex.decode?`: the byte string of a text of lower-case digits.
-/

namespace ImageImports.Hex

/-- The digit of a value below sixteen. -/
def digit (n : Nat) : Char :=
  if n < 10 then Char.ofNat (48 + n) else Char.ofNat (87 + n)

/-- The value of a lower-case digit. -/
def value? (c : Char) : Option Nat :=
  if '0' ≤ c ∧ c ≤ '9' then some (c.toNat - 48)
  else if 'a' ≤ c ∧ c ≤ 'f' then some (c.toNat - 87)
  else none

/-- The characters of a byte string. -/
def encodeChars : List UInt8 → List Char
  | [] => []
  | b :: rest => digit (b.toNat / 16) :: digit (b.toNat % 16) :: encodeChars rest

/-- The text of a byte string. -/
def encode (bytes : List UInt8) : String := String.ofList (encodeChars bytes)

/-- The bytes that a list of characters spells, two digits a byte. -/
def decodeChars? : List Char → Option (List UInt8)
  | [] => some []
  | [_] => none
  | a :: b :: rest => do
    let high ← value? a
    let low ← value? b
    let bytes ← decodeChars? rest
    return UInt8.ofNat (16 * high + low) :: bytes

/-- The byte string of a text of lower-case digits. -/
def decode? (text : String) : Option (List UInt8) := decodeChars? text.toList

theorem length_encodeChars (bytes : List UInt8) :
    (encodeChars bytes).length = 2 * bytes.length := by
  induction bytes with
  | nil => rfl
  | cons b rest ih => simp [encodeChars, ih]; omega

end ImageImports.Hex
