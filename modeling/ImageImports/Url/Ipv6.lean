import ImageImports.Url.Ipv4

/-!
# IPv6 addresses

Eight groups of sixteen bits in hexadecimal, parted by colons. Once, `::` may stand for one or
more groups that are zero, and the last two groups may be spelled as an IPv4 address.

## Main definitions

* `Url.Ipv6.parse?`: the groups that a text spells.
* `Url.Ipv6.render`: the text in which the longest run of zeros is left out.
-/

namespace ImageImports.Url.Ipv6

/-- The pieces of a text between colons. -/
def splitColons : List Char → List (List Char)
  | [] => [[]]
  | c :: rest =>
    if c = ':' then [] :: splitColons rest
    else
      match splitColons rest with
      | [] => [[c]]
      | s :: t => (c :: s) :: t

/-- A group of one to four hexadecimal digits. -/
def groupValue? (cs : List Char) : Option Nat :=
  if cs.isEmpty ∨ 4 < cs.length then none else Text.digitsValue? 16 cs

/-- A decimal byte without leading zeros. -/
def byteValue? (cs : List Char) : Option Nat :=
  match cs with
  | [] => none
  | '0' :: _ :: _ => none
  | _ => (Text.digitsValue? 10 cs).filter (· ≤ 255)

/-- Two groups from four decimal bytes. -/
def dottedGroups? (cs : List Char) : Option (List Nat) :=
  match (Ipv4.splitDots cs).mapM byteValue? with
  | some [a, b, c, d] => some [a * 256 + b, c * 256 + d]
  | _ => none

/-- The groups of a list of pieces. Only the last piece may hold four decimal bytes, and only
where the address ends. -/
def groups? (atEnd : Bool) : List (List Char) → Option (List Nat)
  | [] => some []
  | [piece] =>
    if atEnd && piece.contains '.' then dottedGroups? piece
    else (groupValue? piece).map ([·])
  | piece :: rest => do return (← groupValue? piece) :: (← groups? atEnd rest)

/-- The groups of a text; no text has no groups. -/
def groupsOf? (atEnd : Bool) (cs : List Char) : Option (List Nat) :=
  if cs.isEmpty then some [] else groups? atEnd (splitColons cs)

/-- The text before the first `::` and the text after it. -/
def splitGap : List Char → Option (List Char × List Char)
  | [] => none
  | ':' :: ':' :: rest => some ([], rest)
  | c :: rest => (splitGap rest).map fun (before, after) => (c :: before, after)

/-- The eight groups that a text spells. -/
def parse? (cs : List Char) : Option (List Nat) := do
  match splitGap cs with
  | none =>
    let groups ← groupsOf? true cs
    if groups.length = 8 then some groups else none
  | some (before, after) =>
    let left ← groupsOf? false before
    let right ← groupsOf? true after
    if left.length + right.length ≤ 7 then
      some (left ++ List.replicate (8 - left.length - right.length) 0 ++ right)
    else none

/-- The number of zeros that a list starts with. -/
def zeros (groups : List Nat) : Nat := (groups.takeWhile (· == 0)).length

/-- The start and length of the first longest run of zeros, as far as the list is given. -/
def longestRun : List Nat → Nat × Nat
  | [] => (0, 0)
  | g :: rest =>
    let (start, size) := longestRun rest
    let here := zeros (g :: rest)
    if size ≤ here ∧ 0 < here then (0, here) else (start + 1, size)

/-- A group without leading zeros. -/
def renderGroup (n : Nat) : String := String.ofList (Nat.toDigits 16 n)

/-- The groups of a stretch. -/
def renderGroups (groups : List Nat) : String := ":".intercalate (groups.map renderGroup)

/-- The plainest text of an address: its first longest run of at least two zeros is left out. -/
def render (groups : List Nat) : String :=
  let (start, size) := longestRun groups
  if size < 2 then renderGroups groups
  else renderGroups (groups.take start) ++ "::" ++ renderGroups (groups.drop (start + size))

end ImageImports.Url.Ipv6
