import ImageImports.Pattern.Property
import ImageImports.Text.Case

/-!
# Sets of characters

What a pattern accepts at one place of a text.

## Main definitions

* `Pattern.CharSet`: an expression for a set of characters.
* `Pattern.CharSet.holds`: a character is in the set.
-/

namespace ImageImports.Pattern

/-- An expression for a set of characters. A set in any case holds every character that differs
from one of its characters in case only; case beyond ASCII may be left out of account. -/
inductive CharSet where
  | empty
  | range (first last : Char)
  | property (p : Property)
  | union (a b : CharSet)
  | inter (a b : CharSet)
  | diff (a b : CharSet)
  | complement (a : CharSet)
  | anyCase (unicode : Bool) (a : CharSet)
  deriving Repr

namespace CharSet

/-- A single character. -/
def single (c : Char) : CharSet := .range c c

/-- Several characters. -/
def ofList (cs : List Char) : CharSet := cs.foldr (fun c set => .union (single c) set) .empty

/-- What is in exactly one of two sets. -/
def symmDiff (a b : CharSet) : CharSet := .union (.diff a b) (.diff b a)

/-- The characters that differ from a character in case only. -/
def cases (unicode : Bool) (c : Char) : List Char :=
  if unicode then Text.caseVariants c else [c.toLower, c.toUpper]

/-- A character is in a set. -/
def holds : CharSet → Char → Bool
  | .empty, _ => false
  | .range first last, c => decide (first ≤ c) && decide (c ≤ last)
  | .property p, c => p.holds c
  | .union a b, c => a.holds c || b.holds c
  | .inter a b, c => a.holds c && b.holds c
  | .diff a b, c => a.holds c && !b.holds c
  | .complement a, c => !a.holds c
  | .anyCase unicode a, c => a.holds c || (cases unicode c).any a.holds

/-- The number of states that a set takes in an automaton, roughly. -/
def size : CharSet → Nat
  | .empty => 1
  | .range first last => if last.toNat < 0x80 ∨ first = last then 1 else 3
  | .property p => 3 * p.size
  | .union a b | .inter a b | .diff a b => a.size + b.size
  | .complement a => a.size + 3
  | .anyCase _ a => a.size

/-- The digits: those of all scripts, or of ASCII. -/
def digit (unicode : Bool) : CharSet :=
  if unicode then .property (.categories [.decimalNumber]) else .range '0' '9'

/-- White space. -/
def space (unicode : Bool) : CharSet :=
  if unicode then .property .blank
  else ofList ['\t', '\n', '\x0b', '\x0c', '\r', ' ']

/-- The characters of words: letters, marks, digits, connectors and joiners. -/
def word (unicode : Bool) : CharSet :=
  if unicode then
    .union (.property .alphabetic)
      (.union
        (.property (.categories (.decimalNumber :: .connectorPunctuation :: Text.Category.marks)))
        (.range '\u200c' '\u200d'))
  else .union (.range 'a' 'z') (.union (.range 'A' 'Z') (.union (.range '0' '9') (single '_')))

/-- Every character but those given. -/
def allBut (cs : List Char) : CharSet := .complement (ofList cs)

/-- The classes of ASCII characters by name. -/
def asciiClasses : List (String × CharSet) :=
  [("alnum", .union (.range '0' '9') (.union (.range 'A' 'Z') (.range 'a' 'z'))),
   ("alpha", .union (.range 'A' 'Z') (.range 'a' 'z')), ("ascii", .range '\x00' '\x7f'),
   ("blank", ofList ['\t', ' ']), ("cntrl", .union (.range '\x00' '\x1f') (single '\x7f')),
   ("digit", .range '0' '9'), ("graph", .range '!' '~'), ("lower", .range 'a' 'z'),
   ("print", .range ' ' '~'),
   ("punct", .union (.range '!' '/') (.union (.range ':' '@')
     (.union (.range '[' '\x60') (.range '\x7b' '~')))),
   ("space", space false), ("upper", .range 'A' 'Z'), ("word", word false),
   ("xdigit", .union (.range '0' '9') (.union (.range 'A' 'F') (.range 'a' 'f')))]

end CharSet

end ImageImports.Pattern
