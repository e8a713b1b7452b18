import ImageImports.Pattern.CharSet

/-!
# Regular expressions

A regular expression leads from places in a text to places further on. It occurs in a text when it
leads from some place to any.

## Main definitions

* `Pattern.Regex`: a regular expression.
* `Pattern.Regex.ends`: the places that it leads to.
* `Pattern.Regex.occursIn`: it occurs in a text.
-/

namespace ImageImports.Pattern

/-- A condition on a place: on what stands before and after it. -/
inductive Assertion where
  | textStart
  | textEnd
  | lineStart (returns : Bool)
  | lineEnd (returns : Bool)
  | wordBoundary (unicode : Bool)
  | noWordBoundary (unicode : Bool)
  | wordStart (unicode : Bool)
  | wordEnd (unicode : Bool)
  | noWordBefore (unicode : Bool)
  | noWordAfter (unicode : Bool)
  deriving DecidableEq, Repr

namespace Assertion

/-- A neighbour belongs to a word. -/
def inWord (unicode : Bool) (c : Option Char) : Bool := c.any (CharSet.word unicode).holds

/-- A place fulfils a condition; the neighbours are absent at the ends of the text. Where returns
end lines as well, a return and a line feed together end one line. -/
def holds (assertion : Assertion) (before after : Option Char) : Bool :=
  match assertion with
  | .textStart => before.isNone
  | .textEnd => after.isNone
  | .lineStart returns =>
    before.isNone || before == some '\n' ||
      (returns && before == some '\r' && after != some '\n')
  | .lineEnd returns =>
    if returns then
      after.isNone || after == some '\r' || (after == some '\n' && before != some '\r')
    else after.isNone || after == some '\n'
  | .wordBoundary u => inWord u before != inWord u after
  | .noWordBoundary u => inWord u before == inWord u after
  | .wordStart u => !inWord u before && inWord u after
  | .wordEnd u => inWord u before && !inWord u after
  | .noWordBefore u => !inWord u before
  | .noWordAfter u => !inWord u after

end Assertion

/-- A regular expression. A repetition has a least and perhaps a largest number of rounds, and a
group fits where its content does. -/
inductive Regex where
  | nothing
  | chars (set : CharSet)
  | look (assertion : Assertion)
  | seq (a b : Regex)
  | alt (a b : Regex)
  | rep (a : Regex) (least : Nat) (most : Option Nat)
  | group (a : Regex)
  deriving Repr

namespace Regex

/-- Two ascending lists of places as one. -/
def merge : List Nat → List Nat → List Nat
  | [], ys => ys
  | xs, [] => xs
  | x :: xs, y :: ys =>
    if x = y then x :: merge xs ys
    else if x < y then x :: merge xs (y :: ys)
    else y :: merge (x :: xs) ys
  termination_by xs ys => xs.length + ys.length

/-- A step made a number of times. Once it changes nothing, neither do further rounds. -/
def times (step : List Nat → List Nat) : Nat → List Nat → List Nat
  | 0, places => places
  | n + 1, places =>
    let next := step places
    if next = places then places else times step n next

/-- A step made up to a number of times, all places on the way included. -/
def upTo (step : List Nat → List Nat) : Nat → List Nat → List Nat
  | 0, places => places
  | n + 1, places =>
    let next := merge places (step places)
    if next = places then places else upTo step n next

/-- The character before a place. -/
def before (text : Array Char) (place : Nat) : Option Char :=
  match place with
  | 0 => none
  | p + 1 => text[p]?

/-- The places that an expression leads to from any of the given ones, in ascending order. Beyond
the least number of rounds, as many as the text has places are enough. -/
def ends (text : Array Char) : Regex → List Nat → List Nat
  | .nothing, places => places
  | .chars set, places =>
    places.filterMap fun p => if (text[p]?).any set.holds then some (p + 1) else none
  | .look assertion, places => places.filter fun p => assertion.holds (before text p) text[p]?
  | .seq a b, places => ends text b (ends text a places)
  | .alt a b, places => merge (ends text a places) (ends text b places)
  | .rep a least most, places =>
    let further := match most with
      | some most => most - least
      | none => text.size + 1
    upTo (ends text a) further (times (ends text a) least places)
  | .group a, places => ends text a places

/-- An expression occurs in a text. -/
def occursIn (regex : Regex) (text : String) : Bool :=
  let chars := text.toList.toArray
  !(regex.ends chars (List.range (chars.size + 1))).isEmpty

/-- The number of states that an expression takes in an automaton, roughly. -/
def size : Regex → Nat
  | .nothing | .look _ => 1
  | .chars set => set.size
  | .seq a b | .alt a b => a.size + b.size
  | .rep a least most => a.size * max 1 (most.getD (least + 1)) + 1
  | .group a => a.size

/-- How deep an expression is nested: as it stands, as the rest of a row, and as the rest of a
choice. A row or a choice of any length counts once. -/
def nesting : Regex → Nat × Nat × Nat
  | .nothing | .chars _ | .look _ => (0, 0, 0)
  | .rep a _ _ | .group a =>
    let inner := (nesting a).1 + 1
    (inner, inner, inner)
  | .seq a b =>
    let inner := max (nesting a).1 (nesting b).2.1
    (inner + 1, inner, inner + 1)
  | .alt a b =>
    let inner := max (nesting a).1 (nesting b).2.2
    (inner + 1, inner + 1, inner)

/-- The number of rows, choices, repetitions and groups around the innermost element. -/
def depth (regex : Regex) : Nat := regex.nesting.1

end Regex

end ImageImports.Pattern
