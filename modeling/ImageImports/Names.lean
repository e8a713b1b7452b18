import ImageImports.Bytes.Uuid
import ImageImports.Options.Basic
import ImageImports.Program.Visit

/-!
# Names of new bindings

A new binding gets a name that nothing in the document bears. Names are counted up, or they are
drawn at random.

## Main definitions

* `NameSupply`: the names in use, and where to go on.
* `NameSupply.next?`: the next free name.
* `NameSupply.take?`: several of them.
-/

namespace ImageImports

/-- A source of free names: those in use, the last number tried, and the draws that are left. -/
structure NameSupply where
  style : IdentifierStyle
  used : List String
  counter : Nat
  draws : List Uuid

namespace NameSupply

/-- The name with a number. -/
def counted (n : Nat) : String := s!"static_image_{n}"

/-- The name with the digits of a draw. -/
def drawn (u : Uuid) : String := s!"__static_image_{u.digits}"

/-- A supply for a program in which only its own names are in use. -/
def ofProgram (style : IdentifierStyle) (draws : List Uuid) (program : Tree) : NameSupply :=
  ⟨style, program.boundNames, 0, draws⟩

/-- The first number after `n` whose name is free. Of as many candidates as there are names in
use and one more, one is free. -/
def freeNumber (used : List String) : Nat → Nat → Nat
  | 0, n => n + 1
  | tries + 1, n => if used.contains (counted (n + 1)) then freeNumber used tries (n + 1) else n + 1

/-- The first draw whose name is free, and the draws after it. -/
def freeDraw? (used : List String) : List Uuid → Option (Uuid × List Uuid)
  | [] => none
  | u :: rest => if used.contains (drawn u) then freeDraw? used rest else some (u, rest)

/-- The next free name. There is none when the draws come to an end. -/
def next? (s : NameSupply) : Option (String × NameSupply) :=
  match s.style with
  | .counter =>
    let n := freeNumber s.used s.used.length s.counter
    some (counted n, { s with used := counted n :: s.used, counter := n })
  | .uuid =>
    match freeDraw? s.used s.draws with
    | none => none
    | some (u, rest) => some (drawn u, { s with used := drawn u :: s.used, draws := rest })

/-- As many free names as are asked for. -/
def take? : Nat → NameSupply → Option (List String)
  | 0, _ => some []
  | n + 1, s => do
    let (name, s) ← s.next?
    return name :: (← take? n s)

end NameSupply

end ImageImports
