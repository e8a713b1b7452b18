/-!
# Characters of a JSON string

Between the quotes of a JSON string stand plain characters and escapes. An escape by number names
a code unit, and a character beyond the first plane takes a pair of them.

## Main definitions

* `Json.Piece`: a character or an escaped code unit.
* `Json.decodePieces?`: the text of a list of pieces, unless half of a pair stands alone.
-/

namespace ImageImports.Json

/-- What stands at one place of a JSON string. -/
inductive Piece where
  | char (c : Char)
  | escaped (code : Nat)
  deriving DecidableEq, Repr

/-- The first half of a pair. -/
def isLeading (n : Nat) : Bool := 0xD800 ≤ n && n ≤ 0xDBFF

/-- The second half of a pair. -/
def isTrailing (n : Nat) : Bool := 0xDC00 ≤ n && n ≤ 0xDFFF

/-- The characters of a list of pieces. Halves of pairs must meet their other half. -/
def decodeChars? : List Piece → Option (List Char)
  | [] => some []
  | .char c :: rest => (decodeChars? rest).map (c :: ·)
  | .escaped high :: .escaped low :: rest =>
    if isLeading high then
      if isTrailing low then
        (decodeChars? rest).map
          (Char.ofNat (0x10000 + (high - 0xD800) * 0x400 + (low - 0xDC00)) :: ·)
      else none
    else if isTrailing high then none
    else (decodeChars? (.escaped low :: rest)).map (Char.ofNat high :: ·)
  | .escaped n :: rest =>
    if isLeading n || isTrailing n then none
    else (decodeChars? rest).map (Char.ofNat n :: ·)

/-- The text of a list of pieces. -/
def decodePieces? (pieces : List Piece) : Option String :=
  (decodeChars? pieces).map String.ofList

end ImageImports.Json
