import ImageImports.Bytes.Utf8

/-!
# Paths

A path is a string of bytes whose segments are parted by `/`. What a path names depends on its
components only: an empty segment and a `.` say nothing, except for a `.` that opens a relative
path.

A text is a path by its bytes in UTF-8. Not every path comes from a text, and a path that does not
is shown as the text that its bytes are read as.

## Main definitions

* `Path`: a path as it is written.
* `Path.ofText`, `Path.text`: the path that a text is, and the text that a path is shown as.
* `Path.IsText`: a path that is a text.
* `Path.components`: the root, the `.`, the `..` and the names that it is made of.
* `Path.join`: a path read relative to another one.
* `Path.parent?`: the path without its last component.
* `Path.ofComponents`: the plainest path with the given components.
-/

namespace ImageImports

/-- A path as it is written. -/
structure Path where
  bytes : List UInt8
  deriving DecidableEq, Repr, Inhabited

namespace Path

/-- The byte of a slash. -/
abbrev slash : UInt8 := 47

/-- The byte of a dot. -/
abbrev dot : UInt8 := 46

/-- The path that a text is. -/
def ofText (text : String) : Path := ⟨Utf8.encode text⟩

/-- The text that a path is shown as. Bytes that are no UTF-8 are replaced. -/
def text (p : Path) : String := Utf8.decode p.bytes

/-- A path that is a text, and so is the path of the text that it is shown as. -/
def IsText (p : Path) : Prop := ofText p.text = p

instance (p : Path) : Decidable p.IsText := inferInstanceAs (Decidable (_ = _))

/-- One step of a path. -/
inductive Component where
  | root
  | current
  | parent
  | named (name : List UInt8)
  deriving DecidableEq, Repr

/-- The stretches of bytes between slashes: one more than there are slashes. -/
def splitSlash : List UInt8 → List (List UInt8)
  | [] => [[]]
  | b :: rest =>
    if b = slash then [] :: splitSlash rest
    else
      match splitSlash rest with
      | [] => [[b]]
      | s :: t => (b :: s) :: t

/-- The segments joined by slashes. -/
def joinSlash : List (List UInt8) → List UInt8
  | [] => []
  | [s] => s
  | s :: t => s ++ slash :: joinSlash t

/-- A segment that says nothing. -/
def isIdle (segment : List UInt8) : Bool := segment == [] || segment == [dot]

/-- The component that a segment stands for, where it stands for one. -/
def componentOf? (segment : List UInt8) : Option Component :=
  if isIdle segment then none
  else if segment == [dot, dot] then some .parent
  else some (.named segment)

/-- The opening of a path and the segments after it: a root, a leading `.`, or nothing. -/
def opening (bytes : List UInt8) : Option Component × List (List UInt8) :=
  if bytes.head? = some slash then (some .root, splitSlash bytes.tail)
  else
    match splitSlash bytes with
    | [] => (none, [])
    | first :: rest => if first = [dot] then (some .current, rest) else (none, first :: rest)

/-- The components of a path, from the root on. -/
def components (p : Path) : List Component :=
  let (first, segments) := opening p.bytes
  first.toList ++ segments.filterMap componentOf?

/-- A path is absolute when it opens with a slash. -/
def isAbsolute (p : Path) : Bool := p.bytes.head? == some slash

/-- The path without a byte. -/
def isEmpty (p : Path) : Bool := p.bytes.isEmpty

/-- The bytes of a component. -/
def Component.bytes : Component → List UInt8
  | .root => []
  | .current => [dot]
  | .parent => [dot, dot]
  | .named name => name

/-- The plainest path with the given components. A lone root is `/`, and no component is the empty
path. -/
def ofComponents : List Component → Path
  | [.root] => ⟨[slash]⟩
  | cs => ⟨joinSlash (cs.map Component.bytes)⟩

/-- The second path read relative to the first. An absolute second path stands for itself. -/
def join (base rest : Path) : Path :=
  if rest.isAbsolute then rest
  else
    match base.bytes.getLast? with
    | none => rest
    | some last =>
      if last = slash then ⟨base.bytes ++ rest.bytes⟩ else ⟨base.bytes ++ slash :: rest.bytes⟩

/-- The segments without those at the end that say nothing. -/
def trimIdle (segments : List (List UInt8)) : List (List UInt8) :=
  (segments.reverse.dropWhile isIdle).reverse

/-- The path of an opening followed by segments. -/
def withOpening (first : Option Component) (segments : List (List UInt8)) : Path :=
  let body := joinSlash segments
  match first with
  | some .root => ⟨slash :: body⟩
  | some c => ⟨if segments.isEmpty then c.bytes else c.bytes ++ slash :: body⟩
  | none => ⟨body⟩

/-- The path without its last component, as it is written up to there. The root and the empty
path have none. -/
def parent? (p : Path) : Option Path :=
  let (first, segments) := opening p.bytes
  match trimIdle segments with
  | [] =>
    match first with
    | some .current => some ⟨[]⟩
    | _ => none
  | body => some (withOpening first (trimIdle body.dropLast))

end Path

end ImageImports
