import ImageImports.Pattern.Class

/-!
# Reading patterns

A pattern is a choice of branches, a branch a row of items, and an item an element, a class or a
group, repeated or not. Groups may bear names and change the modes of what they hold.

## Main definitions

* `Pattern.readRegex?`: the regular expression that a text spells.
-/

namespace ImageImports.Pattern

/-- A pattern that is being read: what is left, the modes, and the names that groups bear. -/
structure Reader where
  rest : List Char
  flags : Flags
  names : List (List Char)

/-! ### Modes -/

/-- The effect of a letter on the modes. -/
def setFlag? (value : Bool) (c : Char) (flags : Flags) : Option Flags :=
  match c with
  | 'i' => some { flags with anyCase := value }
  | 'm' => some { flags with multiLine := value }
  | 's' => some { flags with dotAll := value }
  | 'U' => some { flags with swapGreed := value }
  | 'u' => some { flags with unicode := value }
  | 'x' => some { flags with spaced := value }
  | 'R' => some { flags with returns := value }
  | _ => none

/-- The letters of modes up to a colon or a closing parenthesis. After a minus they switch a mode
off. No letter may come twice, and a minus needs one after it. -/
def readFlags? (flags : Flags) (negated dangling : Bool) (seen : List Char) :
    List Char → Option (Flags × List Char)
  | [] => none
  | c :: rest =>
    if c == ':' || c == ')' then if dangling then none else some (flags, c :: rest)
    else if c == '-' then if negated then none else readFlags? flags true true seen rest
    else if seen.contains c then none
    else
      match setFlag? (!negated) c flags with
      | some flags => readFlags? flags negated false (c :: seen) rest
      | none => none

/-! ### Names of groups -/

/-- A character that a name of a group may start with. -/
def opensName (c : Char) : Bool := c == '_' || Text.isAlphabetic c

/-- A character that may stand in a name of a group. -/
def continuesName (c : Char) : Bool :=
  opensName c || c == '.' || c == '[' || c == ']' ||
    Text.Category.numbers.any fun category => category.holds c

/-- The name at the start of a text, up to its closing bracket. No two groups share one. -/
def readName? (names : List (List Char)) (cs : List Char) : Option (List Char × List Char) :=
  match cs.span (· ≠ '>') with
  | (c :: name, _ :: after) =>
    if opensName c && name.all continuesName && !names.contains (c :: name) then
      some (c :: name, after)
    else none
  | _ => none

/-! ### Repetitions -/

/-- A number that fits into 32 bits, with white space around it. -/
def readCount? (cs : List Char) : Option (Nat × List Char) :=
  match (cs.dropWhile Text.isBlank).span Char.isDigit with
  | ([], _) => none
  | (digits, rest) =>
    match Text.digitsValue? 10 digits with
    | some n => if n < Nat.pow 2 32 then some (n, rest.dropWhile Text.isBlank) else none
    | none => none

/-- The least and the largest number of rounds between braces, after the opening one. -/
def readBounds? (flags : Flags) (cs : List Char) : Option (Nat × Option Nat × List Char) := do
  let (least, rest) ← readCount? (flags.skip cs)
  let (most, rest) ← match rest with
    | ',' :: after =>
      match flags.skip after with
      | '}' :: _ => some (none, flags.skip after)
      | after => (readCount? after).map fun (most, rest) => (some most, rest)
    | _ => some (some least, rest)
  match rest with
  | '}' :: after => if most.any (· < least) then none else some (least, most, after)
  | _ => none

/-- The repetition at the start of a text; a question mark after it changes only which occurrence
is preferred. -/
def readRepetition? (flags : Flags) (cs : List Char) : Option (Nat × Option Nat × List Char) := do
  let (least, most, rest) ← match cs with
    | '*' :: rest => some (0, none, rest)
    | '+' :: rest => some (1, none, rest)
    | '?' :: rest => some (0, some 1, rest)
    | '{' :: rest => readBounds? flags rest
    | _ => none
  match rest with
  | '?' :: after => some (least, most, after)
  | _ => some (least, most, rest)

/-! ### Elements -/

/-- Any character, but not the end of a line unless the mode says so. -/
def dot? (flags : Flags) : Option Regex :=
  if !flags.unicode then none
  else if flags.dotAll then some (.chars (.property .any))
  else if flags.returns then some (.chars (.allBut ['\n', '\r']))
  else some (.chars (.allBut ['\n']))

/-- The caret. -/
def caret (flags : Flags) : Regex :=
  .look (if flags.multiLine then .lineStart flags.returns else .textStart)

/-- The dollar sign. -/
def dollar (flags : Flags) : Regex :=
  .look (if flags.multiLine then .lineEnd flags.returns else .textEnd)

/-- The expression of an element. -/
def Primitive.regex (flags : Flags) : Primitive → Regex
  | .literal c => .chars (flags.fold (.single c))
  | .set s => .chars s
  | .look assertion => .look assertion

/-- The element at the start of a text that is no group. -/
def readAtom? (flags : Flags) (cs : List Char) : Option (Regex × List Char) :=
  match cs with
  | [] => none
  | '.' :: rest => (dot? flags).map (·, rest)
  | '^' :: rest => some (caret flags, rest)
  | '$' :: rest => some (dollar flags, rest)
  | '[' :: rest => (readClass? flags rest).map fun (set, rest) => (.chars set, rest)
  | '\\' :: rest => (readEscape? flags rest).map fun (p, rest) => (p.regex flags, rest)
  | c :: rest => some ((Primitive.literal c).regex flags, rest)

/-! ### Groups and branches -/

/-- An opened group: the modes that hold within it, and its name. -/
inductive Opening where
  | group (flags : Flags) (name : Option (List Char))
  | modes (flags : Flags)

/-- What follows an opening parenthesis. A look at what comes before or after is refused. -/
def readOpening? (r : Reader) (cs : List Char) : Option (Opening × List Char) :=
  match cs with
  | '?' :: '=' :: _ => none
  | '?' :: '!' :: _ => none
  | '?' :: '<' :: '=' :: _ => none
  | '?' :: '<' :: '!' :: _ => none
  | '?' :: 'P' :: '<' :: rest =>
    (readName? r.names rest).map fun (name, rest) => (.group r.flags (some name), rest)
  | '?' :: '<' :: rest =>
    (readName? r.names rest).map fun (name, rest) => (.group r.flags (some name), rest)
  | '?' :: ')' :: _ => none
  | '?' :: rest =>
    match readFlags? r.flags false false [] rest with
    | some (flags, ':' :: rest) => some (.group flags none, rest)
    | some (flags, _ :: rest) => some (.modes flags, rest)
    | _ => none
  | _ => some (.group r.flags none, cs)

/-- The items of a branch, given in reverse order, in a row. A change of modes is no item that
could be repeated. -/
def row (items : List (Option Regex)) : Regex :=
  let joined := items.foldl (fun acc item =>
    match item, acc with
    | none, acc => acc
    | some regex, none => some regex
    | some regex, some rest => some (.seq regex rest)) none
  joined.getD .nothing

mutual

/-- The branches up to a closing parenthesis or the end. -/
def readBranches? : Nat → Reader → Option (Regex × Reader)
  | 0, _ => none
  | steps + 1, r => do
    let (branch, r) ← readItems? steps [] r
    match r.rest with
    | '|' :: rest =>
      let (others, r) ← readBranches? steps { r with rest }
      return (.alt branch others, r)
    | _ => return (branch, r)

/-- The items of a branch, those before in reverse order. -/
def readItems? : Nat → List (Option Regex) → Reader → Option (Regex × Reader)
  | 0, _, _ => none
  | steps + 1, items, r =>
    match r.flags.skip r.rest with
    | [] => some (row items, { r with rest := [] })
    | ')' :: rest => some (row items, { r with rest := ')' :: rest })
    | '|' :: rest => some (row items, { r with rest := '|' :: rest })
    | '(' :: rest => do
      let (opening, rest) ← readOpening? r (r.flags.skip rest)
      match opening with
      | .modes flags => readItems? steps (none :: items) { r with rest, flags }
      | .group flags name =>
        let (inner, after) ← readBranches? steps ⟨rest, flags, name.toList ++ r.names⟩
        match after.rest with
        | ')' :: rest =>
          readItems? steps (some (.group inner) :: items) ⟨rest, r.flags, after.names⟩
        | _ => none
    | c :: rest =>
      if c == '*' || c == '+' || c == '?' || c == '{' then do
        match items with
        | some item :: before =>
          let (least, most, rest) ← readRepetition? r.flags (c :: rest)
          readItems? steps (some (.rep item least most) :: before) { r with rest }
        | _ => none
      else do
        let (atom, rest) ← readAtom? r.flags (c :: rest)
        readItems? steps (some atom :: items) { r with rest }

end

/-- The largest number of states that an automaton may take. -/
def sizeLimit : Nat := 10 * Nat.pow 2 20 / 24

/-- The largest depth of nesting. -/
def depthLimit : Nat := 250

/-- The regular expression that a text spells, unless it grows too large or too deep. -/
def readRegex? (text : String) : Option Regex := do
  let cs := text.toList
  let (regex, r) ← readBranches? (2 * cs.length + 2) ⟨cs, {}, []⟩
  if r.rest.isEmpty && regex.size ≤ sizeLimit && regex.depth ≤ depthLimit then some regex
  else none

end ImageImports.Pattern
