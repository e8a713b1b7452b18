import ImageImports.Json.Literal
import ImageImports.Json.Piece

/-!
# JSON tokens

A text cut into brackets, separators, words, strings and numbers. The list ends at the first
place where no token can be read.

## Main definitions

* `Json.Token`: one token; `bad` stands for a place where none can be read.
* `Json.tokens`: the tokens of a text.
-/

namespace ImageImports.Json

/-- One token of a JSON text. -/
inductive Token where
  | openBrace
  | closeBrace
  | openBracket
  | closeBracket
  | colon
  | comma
  | null
  | bool (value : Bool)
  | string (pieces : List Piece)
  | number (literal : Literal)
  | bad
  deriving DecidableEq, Repr

/-- White space between tokens. -/
def isGap (c : Char) : Bool := c == ' ' || c == '\n' || c == '\t' || c == '\r'

/-- The value of a hexadecimal digit in either case. -/
def hexValue? (c : Char) : Option Nat :=
  if '0' ≤ c ∧ c ≤ '9' then some (c.toNat - 48)
  else if 'a' ≤ c ∧ c ≤ 'f' then some (c.toNat - 87)
  else if 'A' ≤ c ∧ c ≤ 'F' then some (c.toNat - 55)
  else none

/-- The code unit of four hexadecimal digits. -/
def codeUnit? (a b c d : Char) : Option Nat := do
  let w ← hexValue? a
  let x ← hexValue? b
  let y ← hexValue? c
  let z ← hexValue? d
  return ((w * 16 + x) * 16 + y) * 16 + z

/-- The character that a one-letter escape stands for. -/
def escape? : Char → Option Char
  | '"' => some '"'
  | '\\' => some '\\'
  | '/' => some '/'
  | 'b' => some '\x08'
  | 'f' => some '\x0c'
  | 'n' => some '\n'
  | 'r' => some '\r'
  | 't' => some '\t'
  | _ => none

/-- The rest of a string after its opening quote, and the text after its closing one. Control
characters must be escaped. -/
def scanString? : List Char → Option (List Piece × List Char)
  | [] => none
  | '"' :: rest => some ([], rest)
  | '\\' :: 'u' :: a :: b :: c :: d :: rest => do
    let code ← codeUnit? a b c d
    let (pieces, after) ← scanString? rest
    return (.escaped code :: pieces, after)
  | '\\' :: e :: rest => do
    let c ← escape? e
    let (pieces, after) ← scanString? rest
    return (.char c :: pieces, after)
  | c :: rest =>
    if c == '\\' || c.toNat < 0x20 then none
    else do
      let (pieces, after) ← scanString? rest
      return (.char c :: pieces, after)

/-- The digits at the start of a text, and the text after them. -/
def scanDigits (s : List Char) : List Char × List Char :=
  (s.takeWhile Char.isDigit, s.dropWhile Char.isDigit)

/-- The digits before the point: a lone zero, or digits that do not start with one. -/
def scanWhole? (s : List Char) : Option (List Char × List Char) :=
  match scanDigits s with
  | ([], _) => none
  | ('0' :: _ :: _, _) => none
  | found => some found

/-- The digits after a point, where there is one. -/
def scanFraction? : List Char → Option (Option (List Char) × List Char)
  | '.' :: s =>
    match scanDigits s with
    | ([], _) => none
    | (digits, rest) => some (some digits, rest)
  | s => some (none, s)

/-- A sign and what follows it: true for minus. -/
def scanSign : List Char → Bool × List Char
  | '-' :: s => (true, s)
  | '+' :: s => (false, s)
  | s => (false, s)

/-- The exponent, where there is one: whether it is negative, and its digits. -/
def scanExponent? : List Char → Option (Option (Bool × List Char) × List Char)
  | c :: s =>
    if c == 'e' || c == 'E' then
      let (down, afterSign) := scanSign s
      match scanDigits afterSign with
      | ([], _) => none
      | (digits, rest) => some (some (down, digits), rest)
    else some (none, c :: s)
  | [] => some (none, [])

/-- A number at the start of a text, and the text after it. -/
def scanNumber? (s : List Char) : Option (Literal × List Char) := do
  let (negative, s) := match s with
    | '-' :: rest => (true, rest)
    | _ => (false, s)
  let (whole, s) ← scanWhole? s
  let (fraction, s) ← scanFraction? s
  let (exponent, s) ← scanExponent? s
  return (⟨negative, whole, fraction, exponent⟩, s)

/-- The token at the start of a text without leading white space, and the text after it. -/
def scanToken (s : List Char) : Token × List Char :=
  match s with
  | '{' :: rest => (.openBrace, rest)
  | '}' :: rest => (.closeBrace, rest)
  | '[' :: rest => (.openBracket, rest)
  | ']' :: rest => (.closeBracket, rest)
  | ':' :: rest => (.colon, rest)
  | ',' :: rest => (.comma, rest)
  | 'n' :: 'u' :: 'l' :: 'l' :: rest => (.null, rest)
  | 't' :: 'r' :: 'u' :: 'e' :: rest => (.bool true, rest)
  | 'f' :: 'a' :: 'l' :: 's' :: 'e' :: rest => (.bool false, rest)
  | '"' :: rest =>
    match scanString? rest with
    | some (pieces, after) => (.string pieces, after)
    | none => (.bad, [])
  | _ =>
    match scanNumber? s with
    | some (literal, after) => (.number literal, after)
    | none => (.bad, [])

/-- The tokens of a text, with as many steps as are allowed. -/
def tokensWithin : Nat → List Char → List Token
  | 0, _ => []
  | steps + 1, s =>
    match s.dropWhile isGap with
    | [] => []
    | start =>
      let (token, rest) := scanToken start
      token :: tokensWithin steps rest

/-- The tokens of a text. Every token takes at least one character, so the length of the text
bounds their number. -/
def tokens (text : String) : List Token :=
  let chars := text.toList
  tokensWithin (chars.length + 1) chars

end ImageImports.Json
