import ImageImports.Text.Digit

/-!
# Escapes of a URL

A character that may not stand in some part of a URL is spelled by its bytes, each as `%` and two
hexadecimal digits.

## Main definitions

* `Url.escape`: a text with the characters of a set escaped.
* `Url.unescape`: the bytes that a text with escapes stands for.
-/

namespace ImageImports.Url

/-- A capital hexadecimal digit. -/
def capitalDigit (n : Nat) : Char := (Nat.digitChar n).toUpper

/-- A byte as an escape. -/
def escapeByte (b : UInt8) : List Char :=
  ['%', capitalDigit (b.toNat / 16), capitalDigit (b.toNat % 16)]

/-- Characters that are escaped everywhere: controls and everything beyond ASCII. -/
def isRaw (c : Char) : Bool := c.toNat < 0x20 || 0x7F ≤ c.toNat

/-- A text in which the given characters are escaped, and those that always are. -/
def escape (reserved : List Char) (cs : List Char) : List Char :=
  cs.flatMap fun c =>
    if isRaw c || reserved.contains c then (String.utf8EncodeChar c).flatMap escapeByte else [c]

/-- What is escaped in a fragment. -/
def fragmentReserved : List Char := [' ', '"', '<', '>', '\x60']

/-- What is escaped in a path. -/
def pathReserved : List Char := fragmentReserved ++ ['#', '?', '{', '}']

/-- What is escaped in a user name or password. -/
def userReserved : List Char :=
  pathReserved ++ ['/', ':', ';', '=', '@', '[', '\\', ']', '^', '|']

/-- What is escaped in a query. -/
def queryReserved (special : Bool) : List Char :=
  [' ', '"', '#', '<', '>'] ++ if special then ['\''] else []

/-- The bytes of a text, its escapes resolved. A `%` that opens no escape stands for itself. -/
def unescape : List Char → List UInt8
  | [] => []
  | '%' :: a :: b :: rest =>
    match Text.hexValue? a, Text.hexValue? b with
    | some high, some low => UInt8.ofNat (high * 16 + low) :: unescape rest
    | _, _ => 0x25 :: unescape (a :: b :: rest)
  | c :: rest => String.utf8EncodeChar c ++ unescape rest

end ImageImports.Url
