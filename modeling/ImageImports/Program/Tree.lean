/-!
# Syntax trees

A program as a tree of named fields. Most of it is of no interest and passes through unread, so
the tree knows no grammar. A node is an object, and its kind is the text of its field `type`.

## Main definitions

* `Tree`: a tree of fields, lists, texts and numbers.
* `Tree.field?`, `Tree.kind?`: the field of a node, and its kind.
* `Tree.node`: the node of a kind with given fields.
-/

namespace ImageImports

/-- A syntax tree. A number is a mantissa over a power of ten. -/
inductive Tree where
  | null
  | bool (value : Bool)
  | number (mantissa : Int) (places : Nat)
  | text (value : String)
  | list (elements : List Tree)
  | object (fields : List (String × Tree))
  deriving Inhabited

namespace Tree

/-- The fields of a node. -/
def fields : Tree → List (String × Tree)
  | .object fields => fields
  | _ => []

/-- The elements of a list. -/
def elements : Tree → List Tree
  | .list elements => elements
  | _ => []

/-- A list with every element changed. What is no list stays as it is. -/
def mapElements (change : Tree → Tree) : Tree → Tree
  | .list elements => .list (elements.map change)
  | t => t

/-- The field of a node. A field that holds nothing counts as absent. -/
def field? (t : Tree) (name : String) : Option Tree :=
  match t.fields.lookup name with
  | some .null => none
  | found => found

/-- The text of a field. -/
def textField? (t : Tree) (name : String) : Option String :=
  match t.field? name with
  | some (.text value) => some value
  | _ => none

/-- The elements of a field that holds a list. -/
def listField (t : Tree) (name : String) : List Tree :=
  match t.field? name with
  | some (.list elements) => elements
  | _ => []

/-- The kind of a node. -/
def kind? (t : Tree) : Option String := t.textField? "type"

/-- A node is of a kind. -/
def isKind (t : Tree) (kind : String) : Bool := t.kind? == some kind

/-- The node of a kind with the given further fields. -/
def node (kind : String) (rest : List (String × Tree)) : Tree :=
  .object (("type", .text kind) :: rest)

/-- A name that the program binds or refers to. The mark that it is not optional sets it apart
from the name of a property. -/
def binding (name : String) : Tree :=
  node "Identifier" [("value", .text name), ("optional", .bool false)]

/-- The name of a property. -/
def propertyName (name : String) : Tree := node "Identifier" [("value", .text name)]

/-- A name that the program binds or refers to, if the node is one. -/
def boundName? (t : Tree) : Option String :=
  if t.isKind "Identifier" && (t.fields.lookup "optional").isSome then t.textField? "value"
  else none

end Tree

end ImageImports
