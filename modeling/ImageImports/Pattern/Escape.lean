import ImageImports.Pattern.Regex
import ImageImports.Text.Digit

/-!
# Escapes in patterns

What a backslash and the characters after it stand for: a character, a set of characters, or a
condition on the place.

## Main definitions

* `Pattern.Flags`: the modes of a pattern.
* `Pattern.Primitive`: what an escape may stand for.
* `Pattern.readEscape?`: reads an escape.
-/

namespace ImageImports.Pattern

/-- The modes of a pattern. -/
structure Flags where
  anyCase : Bool := false
  multiLine : Bool := false
  dotAll : Bool := false
  swapGreed : Bool := false
  unicode : Bool := true
  spaced : Bool := false
  returns : Bool := false
  deriving DecidableEq, Repr

/-- What one element of a pattern stands for. -/
inductive Primitive where
  | literal (c : Char)
  | set (s : CharSet)
  | look (assertion : Assertion)
  deriving Repr

/-- The set of a literal, in any case if the mode asks for it. -/
def Flags.fold (flags : Flags) (set : CharSet) : CharSet :=
  if flags.anyCase then .anyCase flags.unicode set else set

/-- A set or all else. Without Unicode the rest would hold half characters and is refused. -/
def Flags.negate? (flags : Flags) (negated : Bool) (set : CharSet) : Option CharSet :=
  if !negated then some set
  else if flags.unicode then some (.complement set)
  else none

/-- A text without the white space and the comments at its start, where the mode has them not
count. A comment ends with its line. -/
def Flags.skip (flags : Flags) (cs : List Char) : List Char :=
  if flags.spaced then skipFrom false cs else cs
where
  skipFrom (comment : Bool) : List Char → List Char
    | [] => []
    | c :: rest =>
      if comment then skipFrom (c != '\n') rest
      else if c == '#' then skipFrom true rest
      else if Text.isBlank c then skipFrom false rest
      else c :: rest

/-- The character with a number in hexadecimal. -/
def charOfHex? (digits : List Char) : Option Char := do
  if digits.isEmpty then none
  let n ← Text.digitsValue? 16 digits
  if n.isValidChar then some (Char.ofNat n) else none

/-- A character by its number: a fixed count of digits, or any count between braces. -/
def readHex? (count : Nat) (cs : List Char) : Option (Primitive × List Char) :=
  match cs with
  | '{' :: rest =>
    match rest.span (· ≠ '}') with
    | (digits, _ :: after) => (charOfHex? digits).map fun c => (.literal c, after)
    | _ => none
  | _ =>
    if cs.length < count then none
    else (charOfHex? (cs.take count)).map fun c => (.literal c, cs.drop count)

/-- The part of a text before another one, and what comes after it. -/
def splitAt? (mark : List Char) : List Char → Option (List Char × List Char)
  | [] => none
  | c :: rest =>
    if mark.isPrefixOf (c :: rest) then some ([], (c :: rest).drop mark.length)
    else (splitAt? mark rest).map fun (before, after) => (c :: before, after)

/-- The property between braces, and whether the sign between kind and value is a denial. -/
def propertyBetween? (name : List Char) : Option (Property × Bool) :=
  match splitAt? ['!', '='] name with
  | some (kind, value) => (Property.ofKind? kind value).map (·, true)
  | none =>
    match (splitAt? [':'] name).or (splitAt? ['='] name) with
    | some (kind, value) => (Property.ofKind? kind value).map (·, false)
    | none => (Property.named? name).map (·, false)

/-- A property, of one letter or between braces. -/
def readProperty? (flags : Flags) (negated : Bool) (cs : List Char) :
    Option (Primitive × List Char) := do
  let (name, after) ← match cs with
    | '{' :: rest =>
      match rest.span (· ≠ '}') with
      | (name, _ :: after) => some (name, after)
      | _ => none
    | '\\' :: _ => none
    | c :: rest => some ([c], rest)
    | [] => none
  let (property, denied) ← propertyBetween? name
  if !flags.unicode then none
  let set := flags.fold (.property property)
  return (.set (if negated != denied then .complement set else set), after)

/-- The conditions on words by name. -/
def wordAssertions (unicode : Bool) : List (String × Assertion) :=
  [("start", .wordStart unicode), ("end", .wordEnd unicode),
   ("start-half", .noWordBefore unicode), ("end-half", .noWordAfter unicode)]

/-- A boundary of words. A name between braces tells which; other braces belong to a repetition. -/
def readBoundary? (flags : Flags) (cs : List Char) : Option (Primitive × List Char) :=
  match cs with
  | '{' :: rest =>
    match flags.skip rest with
    | [] => none
    | c :: inner =>
      if c.isAlpha || c == '-' then
        match (c :: inner).span (· ≠ '}') with
        | (name, _ :: after) =>
          ((wordAssertions flags.unicode).lookup (String.ofList name)).map fun a => (.look a, after)
        | _ => none
      else some (.look (.wordBoundary flags.unicode), cs)
  | _ => some (.look (.wordBoundary flags.unicode), cs)

/-- A class of characters by its letter. -/
def readClassLetter? (flags : Flags) (negated : Bool) (set : Bool → CharSet)
    (rest : List Char) : Option (Primitive × List Char) :=
  (flags.negate? negated (set flags.unicode)).map fun s => (.set s, rest)

/-- The control characters that have a letter. -/
def controlLetters : List (Char × Char) :=
  [('a', '\x07'), ('f', '\x0c'), ('t', '\t'), ('n', '\n'), ('r', '\r'), ('v', '\x0b')]

/-- What the characters after a backslash stand for. Signs stand for themselves, and letters and
digits without a meaning are refused. -/
def readEscape? (flags : Flags) (cs : List Char) : Option (Primitive × List Char) :=
  match cs with
  | [] => none
  | 'x' :: rest => readHex? 2 rest
  | 'u' :: rest => readHex? 4 rest
  | 'U' :: rest => readHex? 8 rest
  | 'p' :: rest => readProperty? flags false rest
  | 'P' :: rest => readProperty? flags true rest
  | 'd' :: rest => readClassLetter? flags false .digit rest
  | 'D' :: rest => readClassLetter? flags true .digit rest
  | 's' :: rest => readClassLetter? flags false .space rest
  | 'S' :: rest => readClassLetter? flags true .space rest
  | 'w' :: rest => readClassLetter? flags false .word rest
  | 'W' :: rest => readClassLetter? flags true .word rest
  | 'A' :: rest => some (.look .textStart, rest)
  | 'z' :: rest => some (.look .textEnd, rest)
  | 'b' :: rest => readBoundary? flags rest
  | 'B' :: rest => some (.look (.noWordBoundary flags.unicode), rest)
  | '<' :: rest => some (.look (.wordStart flags.unicode), rest)
  | '>' :: rest => some (.look (.wordEnd flags.unicode), rest)
  | c :: rest =>
    match controlLetters.lookup c with
    | some control => some (.literal control, rest)
    | none => if c.toNat < 0x80 && !c.isAlphanum then some (.literal c, rest) else none

end ImageImports.Pattern
