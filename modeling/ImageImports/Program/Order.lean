/-!
# Order of the parts of a node

The parts of a syntax node are looked at in an order that belongs to its kind. It is the order in
which a grammar of the language lists them, and not always the order of the source text.

## Main definitions

* `Program.partOrder`: the parts of a kind of node that has more than one, in order.
* `Program.arrange`: results for the parts of a node, put into that order.
-/

namespace ImageImports.Program

/-- The parts of functions and classes that stand inside another node and have no kind of their
own. -/
def bareOrder : List String :=
  ["params", "decorators", "body", "typeParameters", "returnType", "superClass", "typeParams",
   "superTypeParams", "implements"]

/-- The kinds of node with more than one part. -/
def partOrders : List (String × List String) :=
  [("ClassProperty", ["key", "value", "typeAnnotation", "decorators"]),
   ("PrivateProperty", ["key", "value", "typeAnnotation", "decorators"]),
   ("ClassMethod", ["key", "function"]),
   ("PrivateMethod", ["key", "function"]),
   ("Constructor", ["key", "params", "body"]),
   ("AutoAccessor", ["key", "value", "typeAnnotation", "decorators"]),
   ("FunctionDeclaration", ["identifier", "params", "decorators", "body", "typeParameters",
     "returnType"]),
   ("ClassDeclaration", ["identifier", "decorators", "body", "superClass", "typeParams",
     "superTypeParams", "implements"]),
   ("VariableDeclarator", ["id", "init"]),
   ("BinaryExpression", ["left", "right"]),
   ("FunctionExpression", ["identifier", "params", "decorators", "body", "typeParameters",
     "returnType"]),
   ("ClassExpression", ["identifier", "decorators", "body", "superClass", "typeParams",
     "superTypeParams", "implements"]),
   ("AssignmentExpression", ["left", "right"]),
   ("MemberExpression", ["object", "property"]),
   ("SuperPropExpression", ["obj", "property"]),
   ("ConditionalExpression", ["test", "consequent", "alternate"]),
   ("CallExpression", ["callee", "arguments", "typeArguments"]),
   ("NewExpression", ["callee", "arguments", "typeArguments"]),
   ("ArrowFunctionExpression", ["params", "body", "typeParameters", "returnType"]),
   ("TemplateLiteral", ["expressions", "quasis"]),
   ("TaggedTemplateExpression", ["tag", "typeParameters", "template"]),
   ("Parameter", ["decorators", "pat"]),
   ("JSXMemberExpression", ["object", "property"]),
   ("JSXNamespacedName", ["namespace", "name"]),
   ("JSXOpeningElement", ["name", "attributes", "typeArguments"]),
   ("JSXAttribute", ["name", "value"]),
   ("JSXElement", ["opening", "children", "closing"]),
   ("JSXFragment", ["opening", "children", "closing"]),
   ("ImportDeclaration", ["specifiers", "source", "with"]),
   ("ExportAllDeclaration", ["source", "with"]),
   ("ExportNamedDeclaration", ["specifiers", "source", "with"]),
   ("ImportSpecifier", ["local", "imported"]),
   ("ExportSpecifier", ["orig", "exported"]),
   ("ArrayPattern", ["elements", "typeAnnotation"]),
   ("ObjectPattern", ["properties", "typeAnnotation"]),
   ("AssignmentPattern", ["left", "right"]),
   ("RestElement", ["argument", "typeAnnotation"]),
   ("KeyValuePatternProperty", ["key", "value"]),
   ("AssignmentPatternProperty", ["key", "value"]),
   ("KeyValueProperty", ["key", "value"]),
   ("AssignmentProperty", ["key", "value"]),
   ("GetterProperty", ["key", "typeAnnotation", "body"]),
   ("SetterProperty", ["key", "thisParam", "param", "body"]),
   ("MethodProperty", ["key", "params", "decorators", "body", "typeParameters", "returnType"]),
   ("WithStatement", ["object", "body"]),
   ("LabeledStatement", ["label", "body"]),
   ("IfStatement", ["test", "consequent", "alternate"]),
   ("SwitchStatement", ["discriminant", "cases"]),
   ("TryStatement", ["block", "handler", "finalizer"]),
   ("WhileStatement", ["test", "body"]),
   ("DoWhileStatement", ["test", "body"]),
   ("ForStatement", ["init", "test", "update", "body"]),
   ("ForInStatement", ["left", "right", "body"]),
   ("ForOfStatement", ["left", "right", "body"]),
   ("SwitchCase", ["test", "consequent"]),
   ("CatchClause", ["param", "body"]),
   ("TsTypeParameter", ["name", "constraint", "default"]),
   ("TsParameterProperty", ["decorators", "param"]),
   ("TsQualifiedName", ["left", "right"]),
   ("TsCallSignatureDeclaration", ["params", "typeAnnotation", "typeParams"]),
   ("TsConstructSignatureDeclaration", ["params", "typeAnnotation", "typeParams"]),
   ("TsPropertySignature", ["key", "typeAnnotation"]),
   ("TsGetterSignature", ["key", "typeAnnotation"]),
   ("TsSetterSignature", ["key", "param"]),
   ("TsMethodSignature", ["key", "params", "typeAnn", "typeParams"]),
   ("TsIndexSignature", ["params", "typeAnnotation"]),
   ("TsFunctionType", ["params", "typeParams", "typeAnnotation"]),
   ("TsConstructorType", ["params", "typeParams", "typeAnnotation"]),
   ("TsTypeReference", ["typeName", "typeParams"]),
   ("TsTypePredicate", ["paramName", "typeAnnotation"]),
   ("TsTypeQuery", ["exprName", "typeArguments"]),
   ("TsImportType", ["argument", "qualifier", "typeArguments", "attributes"]),
   ("TsTupleElement", ["label", "ty"]),
   ("TsConditionalType", ["checkType", "extendsType", "trueType", "falseType"]),
   ("TsIndexedAccessType", ["objectType", "indexType"]),
   ("TsMappedType", ["typeParam", "nameType", "typeAnnotation"]),
   ("TsInterfaceDeclaration", ["id", "typeParams", "extends", "body"]),
   ("TsExpressionWithTypeArguments", ["expression", "typeArguments"]),
   ("TsTypeAliasDeclaration", ["id", "typeParams", "typeAnnotation"]),
   ("TsEnumDeclaration", ["id", "members"]),
   ("TsEnumMember", ["id", "init"]),
   ("TsModuleDeclaration", ["id", "body"]),
   ("TsNamespaceDeclaration", ["id", "body"]),
   ("TsImportEqualsDeclaration", ["id", "moduleRef"]),
   ("TsAsExpression", ["expression", "typeAnnotation"]),
   ("TsTypeAssertion", ["expression", "typeAnnotation"]),
   ("TsSatisfiesExpression", ["expression", "typeAnnotation"]),
   ("TsInstantiation", ["expression", "typeArguments"])]

/-- The order of the parts of a node. Kinds with a single part need none. -/
def partOrder (kind : Option String) : List String :=
  match kind with
  | none => bareOrder
  | some kind => (partOrders.lookup kind).getD []

/-- Results for the parts of a node in the order of the parts. Parts that the order does not name
come last. -/
def arrange {α : Type} (order : List String) (results : List (String × List α)) : List α :=
  order.flatMap (fun part => (results.filter (·.1 == part)).flatMap Prod.snd) ++
    (results.filter (!order.contains ·.1)).flatMap Prod.snd

end ImageImports.Program
