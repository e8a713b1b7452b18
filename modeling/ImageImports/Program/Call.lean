import ImageImports.Program.Visit

/-!
# Image calls

A call draws an image when a factory is called with a member named `img` and an object of
properties, neither of them spread. The images that it draws are the texts given as `src`.

## Main definitions

* `Call.isImage`: a call draws an image.
* `Call.properties?`: the object of properties of a call.
* `Call.sourceText?`: the text that a property gives as `src`.
-/

namespace ImageImports.Call

/-- The names of the factories in one document. -/
abbrev FactoryNames := List String

/-- The arguments of a call. -/
def arguments (call : Tree) : List Tree := call.listField "arguments"

/-- The expression of an argument. -/
def expression? (argument : Tree) : Option Tree := argument.field? "expression"

/-- The expression of an argument that is not spread. -/
def plainExpression? (argument : Tree) : Option Tree :=
  if (argument.field? "spread").isSome then none else expression? argument

/-- What is called is the name of a factory. -/
def callsFactory (names : FactoryNames) (call : Tree) : Bool :=
  match (call.field? "callee").bind Tree.boundName? with
  | some name => names.contains name
  | none => false

/-- A member that is named `img` without brackets. -/
def isImageMember (t : Tree) : Bool :=
  t.isKind "MemberExpression" &&
    match t.field? "property" with
    | some property =>
      property.isKind "Identifier" && property.textField? "value" == some "img"
    | none => false

/-- An object of properties. -/
def isObject (t : Tree) : Bool := t.isKind "ObjectExpression"

/-- A call draws an image. -/
def isImage (names : FactoryNames) (call : Tree) : Bool :=
  callsFactory names call &&
    match arguments call with
    | component :: properties :: _ =>
      (plainExpression? component).any isImageMember && (plainExpression? properties).any isObject
    | _ => false

/-- The second argument of a call, if it is an object. -/
def properties? (call : Tree) : Option Tree :=
  match arguments call with
  | _ :: properties :: _ => (expression? properties).filter isObject
  | _ => none

/-- The text that a property gives as `src`. The key has to be a plain name and the value a plain
text. -/
def sourceText? (property : Tree) : Option String :=
  match property.field? "key", property.field? "value" with
  | some key, some value =>
    if property.isKind "KeyValueProperty" && key.isKind "Identifier" &&
        key.textField? "value" == some "src" && value.isKind "StringLiteral" then
      value.textField? "value"
    else none
  | _, _ => none

/-- The texts that an object of properties gives as `src`. -/
def sourceTexts (properties : Tree) : List String :=
  (properties.listField "properties").filterMap sourceText?

/-- The texts of all images that a call draws. -/
def imageTexts (names : FactoryNames) (call : Tree) : List String :=
  if isImage names call then ((properties? call).map sourceTexts).getD [] else []

/-- The texts of all images of a program in order. -/
def allImageTexts (names : FactoryNames) (program : Tree) : List String :=
  program.calls.flatMap (imageTexts names)

end ImageImports.Call
