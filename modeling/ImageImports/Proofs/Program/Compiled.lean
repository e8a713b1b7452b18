import ImageImports.Program.Factory
import ImageImports.Proofs.Program.Prepend

/-!
# Compiled documents

A compiled document imports a factory and draws its images by calls of one shape: the factory is
given the member `img` of some components, and an object of properties that starts with `src`.
Whatever the names and the further properties are, such a call draws an image, and its first
property gives the text of its `src`.

## Main definitions

* `Factory.importing`: the import of a factory under its own name.
* `Factory.declaring`: the declaration of a module that imports a factory.
* `Call.drawing`: the call of a factory that draws an image.
* `Tree.compiled`: a program of some items.
* `Tree.nestedImages`: a module with one image call inside of another.
* `Tree.declaredImage`: a script with an image call, whose factory is imported in a declaration.
* `Tree.outerCall`, `Tree.innerCall`: the positions of the image calls in them.

## Main results

* `Call.isImage_drawing`: the call draws an image.
* `Call.isSource_drawing`: the call gives its text at its first property.
-/

namespace ImageImports

namespace Factory

/-- The import of a factory under its own name. -/
def importing (factory source : String) : Tree :=
  .node "ImportDeclaration"
    [("specifiers", .list [.node "ImportSpecifier" [("local", .binding factory)]]),
     ("source", .node "StringLiteral" [("value", .text source)]),
     ("typeOnly", .bool false),
     ("phase", .text "evaluation")]

/-- The declaration of a module that imports a factory. It may stand in a script. -/
def declaring (factory source : String) : Tree :=
  .node "TsModuleDeclaration"
    [("declare", .bool true),
     ("global", .bool false),
     ("namespace", .bool false),
     ("id", .node "StringLiteral" [("value", .text "images")]),
     ("body", .node "TsModuleBlock" [("body", .list [importing factory source])])]

end Factory

namespace Call

/-- The property that gives a value under a name. -/
def property (name : String) (value : Tree) : Tree :=
  .node "KeyValueProperty" [("key", .propertyName name), ("value", value)]

/-- The property that gives a text as `src`. -/
def textProperty (reference : String) : Tree :=
  property "src" (.node "StringLiteral" [("value", .text reference)])

/-- An argument that is not spread. -/
def argument (expression : Tree) : Tree := .object [("expression", expression)]

/-- The member of some components that images are drawn with. -/
def imageMember (components : String) : Tree :=
  .node "MemberExpression"
    [("object", .binding components), ("property", .propertyName "img")]

/-- The call of a factory that draws an image and has further properties. -/
def drawing (factory components reference : String) (further : List Tree) : Tree :=
  .node "CallExpression"
    [("callee", .binding factory),
     ("arguments", .list [argument (imageMember components),
       argument (.node "ObjectExpression"
        [("properties", .list (textProperty reference :: further))])])]

variable (names : FactoryNames) (factory components reference : String) (further : List Tree)

/-- The call draws an image if what it calls is a factory. -/
theorem isImage_drawing :
    isImage names (drawing factory components reference further) = names.contains factory := by
  have hcalls : callsFactory names (drawing factory components reference further) =
      names.contains factory := rfl
  rw [isImage, hcalls]
  exact Bool.and_true _

variable {names factory components reference further}

/-- Wherever the call stands, other than below an optional chain, its first property gives its
text. -/
theorem isSource_drawing {program : Tree} {place : Tree.Position}
    (hat : program.at? place = some (drawing factory components reference further))
    (hlast : place.getLast? ≠ some (.part "base")) (h : names.contains factory = true) :
    IsSource names program (place ++ propertyWay 0) reference := by
  refine ⟨place, drawing factory components reference further, 0, textProperty reference, rfl,
    ⟨hat, rfl, ?_, ?_⟩, ?_, rfl⟩
  · rintro ⟨above, -, rfl, -⟩
    exact hlast List.getLast?_concat
  · rw [isImage_drawing, h]
  · rw [Tree.at?_append, hat]
    rfl

end Call

namespace Tree

/-- A program of a kind that has some items. -/
def compiled (kind : String) (items : List Tree) : Tree := .node kind [("body", .list items)]

/-- The statement of an expression. -/
def statement (expression : Tree) : Tree :=
  .node "ExpressionStatement" [("expression", expression)]

/-- A module that draws an image, and inside of it the same one under another name. -/
def nestedImages : Tree :=
  .compiled "Module"
    [Factory.importing "jsx" "react/jsx-runtime",
     .statement (Call.drawing "jsx" "components" "logo.png"
      [Call.property "children" (Call.drawing "jsx" "components" "./logo.png" [])])]

/-- A script that draws an image with a factory that only the declaration of a module imports. -/
def declaredImage : Tree :=
  .compiled "Script"
    [Factory.declaring "jsx" "react/jsx-runtime",
     .statement (Call.drawing "jsx" "components" "logo.png" [])]

/-- The position of the call that comes after the imports. -/
def outerCall : Position := [.part "body", .element 1, .part "expression"]

/-- The position of a call in the second property of this call. -/
def innerCall : Position := outerCall ++ Call.propertyWay 1 ++ [.part "value"]

theorem isProgram_nestedImages :
    nestedImages.IsProgram "Module" (nestedImages.listField "body") :=
  ⟨by decide, rfl, by unfold Rewrite.PlainTexts; decide +kernel⟩

theorem isProgram_declaredImage :
    declaredImage.IsProgram "Script" (declaredImage.listField "body") :=
  ⟨by decide, rfl, by unfold Rewrite.PlainTexts; decide +kernel⟩

end Tree

end ImageImports
