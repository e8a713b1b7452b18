import ImageImports.Text.Digit

/-!
# IPv4 addresses

A host whose last label is a number is an IPv4 address. Each of its at most four parts is a
decimal, octal or hexadecimal number, and the last part fills all bytes that are left.

## Main definitions

* `Url.Ipv4.endsInNumber`: a host is meant as an address.
* `Url.Ipv4.parse?`: the address that a host spells.
* `Url.Ipv4.render`: four decimal bytes.
-/

namespace ImageImports.Url.Ipv4

/-- The pieces of a text between dots. -/
def splitDots : List Char → List (List Char)
  | [] => [[]]
  | c :: rest =>
    if c = '.' then [] :: splitDots rest
    else
      match splitDots rest with
      | [] => [[c]]
      | s :: t => (c :: s) :: t

/-- The number that a part spells. A leading `0x` makes it hexadecimal and another leading `0`
octal, and nothing after either is zero. -/
def partValue? : List Char → Option Nat
  | [] => none
  | '0' :: 'x' :: digits => Text.digitsValue? 16 digits
  | '0' :: 'X' :: digits => Text.digitsValue? 16 digits
  | '0' :: d :: digits => Text.digitsValue? 8 (d :: digits)
  | digits => Text.digitsValue? 10 digits

/-- The parts of a host; a single dot at the end does not count. -/
def parts (host : List Char) : List (List Char) :=
  let all := splitDots host
  if all.getLast? = some [] then all.dropLast else all

/-- The last part of a host looks like a number. -/
def endsInNumber (host : List Char) : Bool :=
  match (parts host).getLast? with
  | none => false
  | some part => (!part.isEmpty && part.all Char.isDigit) || (partValue? part).isSome

/-- The value of parts: all but the last are bytes. -/
def combine? : List Nat → Option Nat
  | [] => none
  | numbers =>
    let last := numbers.getLast?.getD 0
    let bytes := numbers.dropLast
    if 4 < numbers.length ∨ bytes.any (255 < ·) ∨ Nat.pow 256 (4 - bytes.length) ≤ last then none
    else some (bytes.foldr (fun b acc => acc / 256 + b * Nat.pow 256 3) 0 + last)

/-- The address that a host spells, as a number of 32 bits. -/
def parse? (host : List Char) : Option Nat :=
  ((parts host).mapM partValue?).bind combine?

/-- The four bytes of an address in decimal. -/
def render (address : Nat) : String :=
  ".".intercalate
    [toString (address / Nat.pow 256 3 % 256), toString (address / Nat.pow 256 2 % 256),
     toString (address / 256 % 256), toString (address % 256)]

end ImageImports.Url.Ipv4
