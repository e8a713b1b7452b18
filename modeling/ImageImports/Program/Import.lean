import ImageImports.Program.Tree
import ImageImports.Warning

/-!
# Imports

An image is imported by a declaration that binds its path to a name. New imports come before
everything else in a module. A script cannot hold any.

## Main definitions

* `Import`: a name and the path that it is bound to.
* `Import.declaration`: the node of an import.
* `Import.inject`: a program with new imports.
-/

namespace ImageImports

/-- A name and the path of the image that it is bound to. -/
structure Import where
  name : String
  path : String
  deriving DecidableEq, Repr

namespace Import

/-- The node that binds the default export of a path to a name. -/
def declaration (i : Import) : Tree :=
  .node "ImportDeclaration"
    [("specifiers", .list [.node "ImportDefaultSpecifier" [("local", .binding i.name)]]),
     ("source", .node "StringLiteral" [("value", .text i.path)]),
     ("typeOnly", .bool false),
     ("phase", .text "evaluation")]

/-- A node whose body starts with new items. -/
def prepend (items : List Tree) (program : Tree) : Tree :=
  .object (program.fields.map fun (part, t) =>
    if part == "body" then (part, .list (items ++ t.elements)) else (part, t))

/-- A program with new imports, in their order, before its body. A script stays as it is. -/
def inject (imports : List Import) (program : Tree) : Tree × List Warning :=
  if imports.isEmpty then (program, [])
  else if program.isKind "Module" then (prepend (imports.map declaration) program, [])
  else (program, [.importsDropped])

end Import

end ImageImports
