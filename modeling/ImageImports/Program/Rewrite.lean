import ImageImports.Error
import ImageImports.Plan

/-!
# Rewriting

Every text that an image call gives as `src` is replaced by the name that its image is bound to.
Inner calls are rewritten before outer ones.

## Main definitions

* `Rewrite.Outcome`: a rewritten tree, and the references that were met in it.
* `Rewrite.rewrite`: rewrites a tree with the name of each reference.
* `Rewrite.apply`: rewrites a program with the bindings of its plan.
-/

namespace ImageImports.Rewrite

/-- The name that each reference is bound to, where it is bound. -/
abbrev Bindings := String → Option String

/-- A rewritten tree, and the references that were met, whether they are bound or not. -/
structure Outcome where
  tree : Tree
  met : List String

/-- The property that gives a name as `src`. -/
def boundProperty (name : String) : Tree :=
  .node "KeyValueProperty" [("key", .propertyName "src"), ("value", .binding name)]

/-- A property of an image call, with the name of its reference. -/
def rewriteProperty (bindings : Bindings) (property : Tree) : Tree :=
  match (Call.sourceText? property).bind bindings with
  | some name => boundProperty name
  | none => property

/-- A node with one field changed. What is no node stays as it is. -/
def updateField (name : String) (change : Tree → Tree) : Tree → Tree
  | .object fields =>
    .object (fields.map fun (part, value) => (part, if part == name then change value else value))
  | t => t

/-- An object of properties, each rewritten. -/
def rewriteObject (bindings : Bindings) : Tree → Tree :=
  updateField "properties" (Tree.mapElements (rewriteProperty bindings))

/-- A list of arguments with the properties of the second one rewritten. -/
def rewriteArguments (bindings : Bindings) : Tree → Tree
  | .list (component :: properties :: rest) =>
    .list (component :: updateField "expression" (rewriteObject bindings) properties :: rest)
  | arguments => arguments

/-- A call with its own properties rewritten. -/
def rewriteCall (bindings : Bindings) : Tree → Tree :=
  updateField "arguments" (rewriteArguments bindings)

/-- What becomes of a node whose parts are rewritten already. -/
def finish (names : Call.FactoryNames) (bindings : Bindings) (chained : Bool) (inner : Outcome) :
    Outcome :=
  if !chained && inner.tree.isKind "CallExpression" && Call.isImage names inner.tree then
    ⟨rewriteCall bindings inner.tree, inner.met ++ Call.imageTexts names inner.tree⟩
  else inner

mutual

/-- A tree with all its image calls rewritten. -/
def rewriteFrom (names : Call.FactoryNames) (bindings : Bindings) (chained : Bool) : Tree → Outcome
  | .object fields =>
    let kind := Tree.kindOf fields
    let parts := rewriteParts names bindings kind fields
    finish names bindings chained
      ⟨.object (parts.map fun (part, outcome) => (part, outcome.tree)),
       Program.arrange (Program.partOrder kind)
         (parts.map fun (part, outcome) => (part, outcome.met))⟩
  | .list elements =>
    let outcomes := rewriteList names bindings elements
    ⟨.list (outcomes.map Outcome.tree), outcomes.flatMap Outcome.met⟩
  | leaf => ⟨leaf, []⟩
  termination_by structural t => t

/-- Every tree of a list rewritten. -/
def rewriteList (names : Call.FactoryNames) (bindings : Bindings) : List Tree → List Outcome
  | [] => []
  | t :: rest => rewriteFrom names bindings false t :: rewriteList names bindings rest
  termination_by structural ts => ts

/-- Every part of a node rewritten. -/
def rewriteParts (names : Call.FactoryNames) (bindings : Bindings) (kind : Option String) :
    List (String × Tree) → List (String × Outcome)
  | [] => []
  | (part, t) :: rest =>
    (part, rewriteFrom names bindings (Tree.isChainBase kind part) t) ::
      rewriteParts names bindings kind rest
  termination_by structural fields => fields

end

/-- A program with all its image calls rewritten. -/
def rewrite (names : Call.FactoryNames) (bindings : Bindings) (program : Tree) : Outcome :=
  rewriteFrom names bindings false program

/-- The names of the images of a plan, given in the order of the images. -/
def bindingsOf (plan : Plan) (locals : List String) : Bindings := fun reference =>
  (plan.indexOf? reference).bind (locals[·]?)

/-- Rewrites a program with one name for each planned image, and counts the properties that were
rewritten. A reference without a name is an error, but the other properties are rewritten all the
same. -/
def apply (names : Call.FactoryNames) (plan : Plan) (locals : List String) (program : Tree) :
    Tree × Except TransformError Nat :=
  if locals.length ≠ plan.images.length then
    (program, .error (.malformedMatch
      s!"{plan.images.length} images planned but {locals.length} resolved"))
  else
    let bindings := bindingsOf plan locals
    let outcome := rewrite names bindings program
    (outcome.tree,
      match outcome.met.find? fun reference => (bindings reference).isNone with
      | some reference =>
        .error (.malformedMatch s!"no resolved image for src {Text.quote reference}")
      | none => .ok outcome.met.length)

end ImageImports.Rewrite
