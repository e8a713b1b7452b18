import ImageImports.Pattern.Escape

/-!
# Classes in patterns

A class between square brackets: characters, ranges, named classes and further classes, joined, or
combined by `&&`, `--` and `~~`. A caret at its start means all other characters.

## Main definitions

* `Pattern.readClass?`: reads a class after its opening bracket.
-/

namespace ImageImports.Pattern

/-- The class between `[:` and `:]` at the start of a text. -/
def readNamedClass? (flags : Flags) (cs : List Char) : Option (CharSet × List Char) :=
  match cs with
  | '[' :: ':' :: rest =>
    let (negated, rest) := match rest with
      | '^' :: after => (true, after)
      | _ => (false, rest)
    match rest.span (· ≠ ':') with
    | (name, ':' :: ']' :: after) =>
      match CharSet.asciiClasses.lookup (String.ofList name) with
      | some set => (flags.negate? negated (flags.fold set)).map (·, after)
      | none => none
    | _ => none
  | _ => none

/-- One element of a class. -/
def readElement? (flags : Flags) (cs : List Char) : Option (Primitive × List Char) :=
  match cs with
  | [] => none
  | '\\' :: rest => readEscape? flags rest
  | c :: rest => some (.literal c, rest)

/-- A literal that may stand in a class. Without Unicode it has to be ASCII. -/
def literalAllowed (flags : Flags) (c : Char) : Bool := flags.unicode || c.toNat < 0x80

/-- The set of an element of a class; a condition is none. -/
def elementSet? (flags : Flags) : Primitive → Option CharSet
  | .literal c => if literalAllowed flags c then some (flags.fold (.single c)) else none
  | .set s => some s
  | .look _ => none

/-- One element of a class or a range of characters. A hyphen before the closing bracket or
another hyphen makes no range. -/
def readRange? (flags : Flags) (cs : List Char) : Option (CharSet × List Char) := do
  let (first, rest) ← readElement? flags cs
  let rest := flags.skip rest
  let alone := (elementSet? flags first).map (·, rest)
  match rest with
  | [] => none
  | '-' :: after =>
    match flags.skip after with
    | ']' :: _ => alone
    | '-' :: _ => alone
    | after =>
      let (last, rest) ← readElement? flags after
      match first, last with
      | .literal a, .literal b =>
        if a ≤ b && literalAllowed flags b then some (flags.fold (.range a b), rest) else none
      | _, _ => none
  | _ => alone

/-- The hyphens that a class starts with stand for themselves. -/
def leadingHyphens (flags : Flags) : Nat → CharSet → List Char → CharSet × List Char
  | 0, set, cs => (set, cs)
  | steps + 1, set, cs =>
    match cs with
    | '-' :: rest =>
      leadingHyphens flags steps (.union set (flags.fold (.single '-'))) (flags.skip rest)
    | _ => (set, cs)

/-- The opening of a class: whether it is denied, and the elements that stand for themselves only
there. -/
def readOpening (flags : Flags) (cs : List Char) : Bool × CharSet × List Char :=
  let cs := flags.skip cs
  let (negated, cs) := match cs with
    | '^' :: rest => (true, flags.skip rest)
    | _ => (false, cs)
  match cs with
  | ']' :: rest => (negated, flags.fold (.single ']'), rest)
  | _ =>
    let (set, rest) := leadingHyphens flags cs.length .empty cs
    (negated, set, rest)

/-- The elements of a class up to its closing bracket. What stands before the last operator is put
together with the set after it by `combine`. -/
def readElements? (flags : Flags) : Nat → (CharSet → CharSet) → CharSet → List Char →
    Option (CharSet × List Char)
  | 0, _, _, _ => none
  | steps + 1, combine, set, cs =>
    match flags.skip cs with
    | [] => none
    | ']' :: rest => some (combine set, rest)
    | '&' :: '&' :: rest =>
      readElements? flags steps (.inter (combine set)) .empty rest
    | '-' :: '-' :: rest =>
      readElements? flags steps (.diff (combine set)) .empty rest
    | '~' :: '~' :: rest =>
      readElements? flags steps (CharSet.symmDiff (combine set)) .empty rest
    | '[' :: inner =>
      match readNamedClass? flags ('[' :: inner) with
      | some (named, rest) => readElements? flags steps combine (.union set named) rest
      | none =>
        let (negated, opening, rest) := readOpening flags inner
        match readElements? flags steps id opening rest with
        | none => none
        | some (nested, rest) =>
          match flags.negate? negated nested with
          | none => none
          | some nested => readElements? flags steps combine (.union set nested) rest
    | other =>
      match readRange? flags other with
      | none => none
      | some (element, rest) => readElements? flags steps combine (.union set element) rest

/-- The class after an opening bracket. -/
def readClass? (flags : Flags) (cs : List Char) : Option (CharSet × List Char) := do
  let (negated, opening, rest) := readOpening flags cs
  let (set, rest) ← readElements? flags (cs.length + 1) id opening rest
  return (← flags.negate? negated set, rest)

end ImageImports.Pattern
