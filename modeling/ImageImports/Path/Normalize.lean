import ImageImports.Path.Basic

/-!
# Normal paths

The dots of a path resolved by its bytes alone. A `..` removes the component before it, whatever
that is. Only the root and the empty path have none to remove: there the `..` stays.

## Main definitions

* `Path.push`: one component put onto a stack of components.
* `Path.normalize`: the path of the stack that all components leave.
-/

namespace ImageImports.Path

/-- One component put onto a stack whose top is the head of the list. -/
def push (stack : List Component) : Component → List Component
  | .current => stack
  | .parent =>
    match stack with
    | [] => [.parent]
    | [.root] => [.parent, .root]
    | _ :: below => below
  | c => c :: stack

/-- The components that are left when every dot is resolved. -/
def resolveDots (cs : List Component) : List Component := (cs.foldl push []).reverse

/-- The path with its dots resolved by its bytes alone. -/
def normalize (p : Path) : Path := ofComponents (resolveDots p.components)

end ImageImports.Path
