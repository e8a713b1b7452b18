import ImageImports.Program.Call

/-!
# Factories

A factory is imported under a name of its module and bound to a name of the document. Which
imported names are factories is for a predicate to say.

An import declaration may stand anywhere in a program. What lies inside of one is not looked at,
though its attributes may be any expressions.

## Main definitions

* `Factory.importedName?`: the name that a specifier imports.
* `Factory.declarations`: the import declarations of a program.
* `Factory.names`: the bindings of all imported factories.
-/

namespace ImageImports.Factory

/-- The binding of a specifier. -/
def localName? (specifier : Tree) : Option String :=
  (specifier.field? "local").bind (·.textField? "value")

/-- The name that a specifier imports. Without one of its own it is that of the binding. -/
def importedName? (specifier : Tree) : Option String :=
  match specifier.field? "imported" with
  | some imported => imported.textField? "value"
  | none => localName? specifier

/-- The binding of a specifier that imports a factory by name. -/
def factoryBinding? (isFactory : String → Bool) (specifier : Tree) : Option String :=
  if specifier.isKind "ImportSpecifier" && (importedName? specifier).any isFactory then
    localName? specifier
  else none

/-- The bindings of the factories that a declaration imports. -/
def bindingsOf (isFactory : String → Bool) (declaration : Tree) : List String :=
  if declaration.isKind "ImportDeclaration" then
    (declaration.listField "specifiers").filterMap (factoryBinding? isFactory)
  else []

mutual

/-- The import declarations of a tree that are not inside of another one. -/
def declarations : Tree → List Tree
  | .object fields =>
    if (Tree.object fields).isKind "ImportDeclaration" then [.object fields]
    else declarationsParts fields
  | .list elements => declarationsList elements
  | _ => []
  termination_by structural t => t

/-- The import declarations of the trees of a list. -/
def declarationsList : List Tree → List Tree
  | [] => []
  | t :: rest => declarations t ++ declarationsList rest
  termination_by structural ts => ts

/-- The import declarations of the parts of a node. -/
def declarationsParts : List (String × Tree) → List Tree
  | [] => []
  | (_, t) :: rest => declarations t ++ declarationsParts rest
  termination_by structural fields => fields

end

/-- The bindings of all imported factories of a program, each once. -/
def names (isFactory : String → Bool) (program : Tree) : Call.FactoryNames :=
  ((declarations program).flatMap (bindingsOf isFactory)).eraseDups

end ImageImports.Factory
