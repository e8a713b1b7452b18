import ImageImports.Path.Normalize
import ImageImports.Url.Parse

/-!
# Image sources

Where the bytes of an image come from. A reference that is an absolute URL is fetched, and every
other one is a path relative to the directory of the document.

## Main definitions

* `extension`: the ending of the last segment of a reference.
* `Source`: a URL or a path.
* `Source.classify`: the source that a reference names.
* `Source.key`: the text that tells sources apart.
* `Source.extension`: the ending that a cached copy gets.
-/

namespace ImageImports

/-- The text before a query or a fragment. -/
def beforeQuery (cs : List Char) : List Char := cs.takeWhile fun c => !(c == '?' || c == '#')

/-- The text after the last slash. -/
def lastSegment (cs : List Char) : List Char := (cs.reverse.takeWhile (· ≠ '/')).reverse

/-- The text from the last dot on. A dot that comes first starts a hidden name and no ending. -/
def ending (name : List Char) : List Char :=
  match name.reverse.span (· ≠ '.') with
  | (letters, '.' :: _ :: _) => '.' :: letters.reverse
  | _ => []

/-- The ending of the last segment of a reference, with its dot, or the empty text. -/
def extension (reference : String) : String :=
  String.ofList (ending (lastSegment (beforeQuery reference.toList)))

/-- Where the bytes of an image come from. -/
inductive Source where
  | remote (url : Url)
  | local (path : Path)
  deriving DecidableEq, Repr

namespace Source

/-- The source that a reference names for a document in the given directory. -/
def classify (ascii : Url.ToAscii) (reference : String) (base : Path) : Source :=
  match Url.parse? ascii reference with
  | some url => .remote url
  | none => .local (base.join (.ofText reference)).normalize

/-- Two references with the same key name the same image. The key of a path is the text that it is
shown as, so paths that are no texts may share one. -/
def key : Source → String
  | .remote url => url.render
  | .local path => path.text

/-- The ending of a cached copy: that of the path of a URL, or that of the reference itself. -/
def extension (source : Source) (reference : String) : String :=
  match source with
  | .remote url => ImageImports.extension url.path
  | .local _ => ImageImports.extension reference

end Source

end ImageImports
