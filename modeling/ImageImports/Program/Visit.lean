import ImageImports.Program.Order
import ImageImports.Program.Tree

/-!
# Visits

All nodes of a program in the order in which they are looked at: a node before its parts, and the
parts in the order of their kind. A call that stands directly under an optional chain is no call of
its own, so a visit tells whether the node stands there.

## Main definitions

* `Tree.visits`: every node of a tree.
* `Tree.calls`: the calls among them.
* `Tree.boundNames`: the names that the program binds or refers to.
-/

namespace ImageImports

/-- A node that is looked at, and whether it stands directly under an optional chain. -/
structure Visit where
  chained : Bool
  node : Tree

namespace Tree

/-- The kind that a list of fields gives a node. -/
def kindOf (fields : List (String × Tree)) : Option String := (Tree.object fields).kind?

/-- The part of a node that stands directly under an optional chain. -/
def isChainBase (kind : Option String) (part : String) : Bool :=
  kind == some "OptionalChainingExpression" && part == "base"

mutual

/-- The nodes of a tree in order. -/
def visitsFrom (chained : Bool) : Tree → List Visit
  | .object fields =>
    ⟨chained, .object fields⟩ ::
      Program.arrange (Program.partOrder (kindOf fields)) (visitsParts (kindOf fields) fields)
  | .list elements => visitsList elements
  | _ => []
  termination_by structural t => t

/-- The nodes of a list of trees in order. -/
def visitsList : List Tree → List Visit
  | [] => []
  | t :: rest => visitsFrom false t ++ visitsList rest
  termination_by structural ts => ts

/-- The nodes of each part of a node. -/
def visitsParts (kind : Option String) : List (String × Tree) → List (String × List Visit)
  | [] => []
  | (part, t) :: rest => (part, visitsFrom (isChainBase kind part) t) :: visitsParts kind rest
  termination_by structural fields => fields

end

/-- Every node of a tree. -/
def visits (t : Tree) : List Visit := visitsFrom false t

/-- A node that is a call of its own. -/
def isCallVisit (v : Visit) : Bool :=
  !v.chained && v.node.isKind "CallExpression"

/-- The calls of a program in order. -/
def calls (t : Tree) : List Tree := (t.visits.filter isCallVisit).map Visit.node

/-- The names that a program binds or refers to, as often as they occur. -/
def boundNames (t : Tree) : List String := t.visits.filterMap fun v => v.node.boundName?

end Tree

end ImageImports
