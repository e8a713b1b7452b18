import ImageImports.Url.Escape

/-!
# Path segments of a URL

The segments of a path, its dots resolved. A segment of two dots removes the segment before it,
except for one that names a drive. In a file URL a drive that comes first is spelled with a
colon.

## Main definitions

* `Url.splitSegments`: the segments of a text.
* `Url.resolveSegments`: the segments that are left when the dots are resolved.
-/

namespace ImageImports.Url

/-- A character that parts segments. In the schemes of the web a backslash is a slash. -/
def isSlash (special : Bool) (c : Char) : Bool := c == '/' || (special && c == '\\')

/-- The segments of a text. -/
def splitSegments (special : Bool) : List Char → List (List Char)
  | [] => [[]]
  | c :: rest =>
    if isSlash special c then [] :: splitSegments special rest
    else
      match splitSegments special rest with
      | [] => [[c]]
      | s :: t => (c :: s) :: t

/-- A segment that names the place itself; the dot may be escaped. -/
def isSingleDot (segment : List Char) : Bool :=
  [".", "%2e"].contains (String.ofList (segment.map Char.toLower))

/-- A segment that names the place above; each dot may be escaped. -/
def isDoubleDot (segment : List Char) : Bool :=
  ["..", ".%2e", "%2e.", "%2e%2e"].contains (String.ofList (segment.map Char.toLower))

/-- A letter followed by a colon or a bar. -/
def isDrive (segment : List Char) : Bool :=
  match segment with
  | [c, d] => c.isAlpha && (d == ':' || d == '|')
  | _ => false

/-- A drive, alone or before a backslash. -/
def opensWithDrive (segment : List Char) : Bool :=
  match segment with
  | c :: d :: '\\' :: _ => isDrive [c, d]
  | _ => isDrive segment

/-- The segments without the last one, which stands first. A drive is never removed. -/
def dropTop (done : List (List Char)) : List (List Char) :=
  match done with
  | [] => []
  | top :: below => if opensWithDrive top then done else below

/-- A segment as it is kept after the ones before it. -/
def keep (file : Bool) (done : List (List Char)) (segment : List Char) : List Char :=
  if file && done.isEmpty && isDrive segment then segment.take 1 ++ [':'] else segment

/-- All segments with their dots resolved. The ones before, in reverse order, stand in `done`.
Dots at the end leave an empty last segment. -/
def resolveSegments (file : Bool) (done : List (List Char)) : List (List Char) → List (List Char)
  | [] => done.reverse
  | segment :: rest =>
    if isDoubleDot segment then
      if rest.isEmpty then (dropTop done).reverse ++ [[]]
      else resolveSegments file (dropTop done) rest
    else if isSingleDot segment then
      if rest.isEmpty then done.reverse ++ [[]] else resolveSegments file done rest
    else resolveSegments file (keep file done segment :: done) rest

/-- The segments of a written path, escaped and with their dots resolved. -/
def segmentsOf (special file : Bool) (cs : List Char) : List (List Char) :=
  resolveSegments file [] ((splitSegments special cs).map (escape pathReserved))

/-- The path of a list of segments. -/
def renderSegments (segments : List (List Char)) : List Char :=
  segments.flatMap ('/' :: ·)

end ImageImports.Url
