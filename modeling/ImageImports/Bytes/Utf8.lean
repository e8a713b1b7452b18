/-!
# Texts as bytes

A text is written in UTF-8. Bytes that are shown as a text need not be UTF-8: they are read one
after another, and each longest stretch that could only have begun a character is shown as one
replacement character.

## Main definitions

* `Utf8.encode`: the bytes of a text.
* `Utf8.State`: a reader of bytes, between characters or within one.
* `Utf8.decode`: the text that bytes are shown as.
-/

namespace ImageImports.Utf8

/-- The bytes of a list of characters. -/
def encodeChars (chars : List Char) : List UInt8 := chars.flatMap String.utf8EncodeChar

/-- The bytes of a text. -/
def encode (text : String) : List UInt8 := encodeChars text.toList

/-- What stands for bytes that are no character. -/
def replacement : Char := '\uFFFD'

/-- Where a reader of bytes is: between two characters, or within one. There it knows the bits that
it has read, how many bytes come after the next one, and between which values the six bits of the
next one lie. -/
inductive State where
  | between
  | within (bits more low high : Nat)

/-- A first byte read: the characters that it ends, and where the reader is after it. A byte that
cannot come first is replaced. -/
def begin (b : UInt8) : List Char × State :=
  let n := b.toNat
  if n < 0x80 then ([Char.ofNat n], .between)
  else if n < 0xC2 then ([replacement], .between)
  else if n < 0xE0 then ([], .within (n - 0xC0) 0 0 63)
  -- The bounds keep out what has a shorter spelling, and what is no character.
  else if n < 0xF0 then
    ([], .within (n - 0xE0) 1 (if n = 0xE0 then 32 else 0) (if n = 0xED then 31 else 63))
  else if n < 0xF5 then
    ([], .within (n - 0xF0) 2 (if n = 0xF0 then 16 else 0) (if n = 0xF4 then 15 else 63))
  else ([replacement], .between)

/-- What the end of the bytes, or a byte that does not go on, leaves of a character. -/
def State.broken : State → List Char
  | .between => []
  | .within _ _ _ _ => [replacement]

/-- One byte read. -/
def State.read (b : UInt8) : State → List Char × State
  | .between => begin b
  | .within bits more low high =>
    if 0x80 + low ≤ b.toNat ∧ b.toNat ≤ 0x80 + high then
      let bits := 64 * bits + (b.toNat - 0x80)
      match more with
      | 0 => ([Char.ofNat bits], .between)
      | more + 1 => ([], .within bits more 0 63)
    else (replacement :: (begin b).1, (begin b).2)

/-- The characters that bytes are shown as from a state on. -/
def decodeFrom : State → List UInt8 → List Char
  | s, [] => s.broken
  | s, b :: rest => (s.read b).1 ++ decodeFrom (s.read b).2 rest

/-- The characters that bytes are shown as. -/
def decodeChars (bytes : List UInt8) : List Char := decodeFrom .between bytes

/-- The text that bytes are shown as. -/
def decode (bytes : List UInt8) : String := String.ofList (decodeChars bytes)

end ImageImports.Utf8
