import ImageImports.Program.Call
import ImageImports.Source

/-!
# Plans

The distinct images of a document in order of first appearance, and which of them each reference
means. References that name the same source share an image.

## Main definitions

* `PlannedImage`: an image before it is resolved.
* `Plan`: the images, and the index of every reference.
* `Plan.ofReferences`: the plan of a list of references.
* `Plan.ofProgram`: the plan of all references in a program.
-/

namespace ImageImports

/-- An image before it is resolved: the reference that was met first, the source that it names,
and the ending that a cached copy gets. -/
structure PlannedImage where
  reference : String
  source : Source
  extension : String
  deriving DecidableEq, Repr

/-- The distinct images of a document, and the position of the image that each reference means. -/
structure Plan where
  images : List PlannedImage
  index : List (String × Nat)
  deriving DecidableEq, Repr

namespace Plan

/-- The plan without images. -/
def empty : Plan := ⟨[], []⟩

/-- Nothing is planned. -/
def isEmpty (p : Plan) : Bool := p.images.isEmpty

/-- The position of the image that a reference means. -/
def indexOf? (p : Plan) (reference : String) : Option Nat := p.index.lookup reference

/-- The image of a reference for a document in the given directory. -/
def imageOf (ascii : Url.ToAscii) (base : Path) (reference : String) : PlannedImage :=
  let source := Source.classify ascii reference base
  ⟨reference, source, source.extension reference⟩

/-- A plan with one more reference. -/
def add (ascii : Url.ToAscii) (base : Path) (p : Plan) (reference : String) : Plan :=
  if (p.indexOf? reference).isSome then p
  else
    let image := imageOf ascii base reference
    match p.images.findIdx? fun known => known.source.key == image.source.key with
    | some position => { p with index := p.index ++ [(reference, position)] }
    | none => ⟨p.images ++ [image], p.index ++ [(reference, p.images.length)]⟩

/-- The plan of a list of references. -/
def ofReferences (ascii : Url.ToAscii) (base : Path) (references : List String) : Plan :=
  references.foldl (add ascii base) empty

/-- The plan of the image calls of a program. -/
def ofProgram (names : Call.FactoryNames) (ascii : Url.ToAscii) (base : Path) (program : Tree) :
    Plan :=
  ofReferences ascii base (Call.allImageTexts names program)

end Plan

end ImageImports
