import ImageImports.Error

/-!
# Source documents

The document whose program is rewritten, as the host knows it: every path that it has had, and
the messages it was given.

## Main definitions

* `Document`: a history of paths and a list of messages.
* `Document.path`: the path that the document was read from.
* `Document.directory`: the directory of that path.
-/

namespace ImageImports

/-- A document: the paths it has had, first one first, and the messages for its host. -/
structure Document where
  history : List Path
  messages : List String
  deriving DecidableEq, Repr

namespace Document

/-- A document with a single path. -/
def ofPath (path : Path) : Document := ⟨[path], []⟩

/-- The first path of the history. A history that is empty or starts with the empty path has
none. -/
def path (d : Document) : Except TransformError Path :=
  match d.history with
  | [] => .error .documentState
  | first :: _ => if first.isEmpty then .error .documentState else .ok first

/-- The directory of the first path; a bare name has the empty one. -/
def directory (d : Document) : Except TransformError Path :=
  d.path.map fun p => p.parent?.getD ⟨[]⟩

/-- The document with one more message. -/
def addMessage (d : Document) (message : String) : Document :=
  { d with messages := d.messages ++ [message] }

end Document

end ImageImports
