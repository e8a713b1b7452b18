import ImageImports.Url.Basic
import ImageImports.Url.Segments

/-!
# Reading URLs

A text is read as an absolute URL. White space and controls around it, and tabs and line ends
within it, do not count. The schemes of the web need a host. A file URL may do without, and any
other scheme may be followed by whatever is no path at all.

## Main definitions

* `Url.parse?`: the URL that a text spells.
-/

namespace ImageImports.Url

/-- The schemes of the web, and the port that each implies. -/
def specialSchemes : List (String × Option Nat) :=
  [("http", some 80), ("https", some 443), ("ws", some 80), ("wss", some 443), ("ftp", some 21),
   ("file", none)]

/-- A scheme of the web. -/
def isSpecial (scheme : String) : Bool := (specialSchemes.lookup scheme).isSome

/-- The port that a scheme implies. -/
def impliedPort (scheme : String) : Option Nat := (specialSchemes.lookup scheme).join

/-- The part of a text that counts. -/
def relevant (cs : List Char) : List Char :=
  let fits (c : Char) : Bool := c.toNat ≤ 0x20
  let trimmed := ((cs.dropWhile fits).reverse.dropWhile fits).reverse
  trimmed.filter fun c => c ≠ '\t' ∧ c ≠ '\n' ∧ c ≠ '\r'

/-- A character that may stand in a scheme. -/
def isSchemeChar (c : Char) : Bool := c.isAlphanum || c == '+' || c == '-' || c == '.'

/-- The scheme that a text starts with, in small letters, and the text after its colon. -/
def splitScheme? (cs : List Char) : Option (String × List Char) :=
  match cs.span isSchemeChar with
  | (c :: rest, ':' :: after) =>
    if c.isAlpha then some (String.ofList ((c :: rest).map Char.toLower), after) else none
  | _ => none

/-- A character that ends a path. -/
def endsPath (c : Char) : Bool := c == '?' || c == '#'

/-- A character that ends an authority. -/
def endsAuthority (special : Bool) (c : Char) : Bool := isSlash special c || endsPath c

/-- The text before the last `@` and the text after it. -/
def splitLastAt? (cs : List Char) : Option (List Char × List Char) :=
  match cs.reverse.span (· ≠ '@') with
  | (after, '@' :: before) => some (before.reverse, after.reverse)
  | _ => none

/-- User name and password. -/
def readUser (cs : List Char) : String × Option String :=
  let text (cs : List Char) : String := String.ofList (escape userReserved cs)
  match cs.span (· ≠ ':') with
  | (name, ':' :: c :: password) => (text name, some (text (c :: password)))
  | (name, _) => (text name, none)

/-- The host at the start of a text, as it is written, and the text after it. A colon between
square brackets does not end it. -/
def spanHost (special inside : Bool) : List Char → List Char × List Char
  | [] => ([], [])
  | c :: rest =>
    if endsAuthority special c || (c == ':' && !inside) then ([], c :: rest)
    else
      let (host, after) := spanHost special (c == '[' || (inside && c ≠ ']')) rest
      (c :: host, after)

/-- The port at the start of a text. No digit means no port, and so does the implied one. -/
def readPort? (scheme : String) (cs : List Char) : Option (Option Nat × List Char) :=
  let (digits, rest) := cs.span Char.isDigit
  let fits := match rest with
    | [] => true
    | c :: _ => endsAuthority true c
  match Text.digitsValue? 10 digits with
  | some port =>
    if !fits || 65535 < port then none
    else if digits.isEmpty || impliedPort scheme = some port then some (none, rest)
    else some (some port, rest)
  | none => none

/-- The authority that follows two slashes, and the text after it. A user without a host is
refused, and so is a port without one. -/
def readAuthority? (ascii : ToAscii) (scheme : String) (cs : List Char) :
    Option (Authority × List Char) := do
  let special := isSpecial scheme
  let (area, after) := cs.span (!endsAuthority special ·)
  let (user, rest) := match splitLastAt? area with
    | some (user, host) => (some user, host ++ after)
    | none => (none, cs)
  let missing := match user, rest with
    | some [], c :: _ => endsAuthority special c
    | _, _ => false
  if missing then none
  let (username, password) := readUser (user.getD [])
  let (written, rest) := spanHost special false rest
  if special && written.isEmpty then none
  let host ← Host.parse? ascii special written
  if host = .empty && (!username.isEmpty || password.isSome || rest.head? = some ':') then none
  let (port, rest) ← match rest with
    | ':' :: digits => readPort? scheme digits
    | _ => some (none, rest)
  return (⟨username, password, host, port⟩, rest)

/-- Query and fragment at the start of a text. -/
def readQuery (special : Bool) (cs : List Char) : Option String × Option String :=
  let fragment (cs : List Char) : String := String.ofList (escape fragmentReserved cs)
  match cs with
  | '?' :: rest =>
    let (query, after) := rest.span (· ≠ '#')
    let query := String.ofList (escape (queryReserved special) query)
    match after with
    | _ :: rest => (some query, some (fragment rest))
    | [] => (some query, none)
  | '#' :: rest => (none, some (fragment rest))
  | _ => (none, none)

/-- The URL of its parts, where the path is already read and query and fragment are not. -/
def assemble (scheme : String) (authority : Option Authority) (path : List Char)
    (rest : List Char) : Url :=
  let (query, fragment) := readQuery (isSpecial scheme) rest
  ⟨scheme, authority, String.ofList path, query, fragment⟩

/-- A text without the slash that it starts with. -/
def dropSlash (special : Bool) (cs : List Char) : List Char :=
  match cs with
  | c :: rest => if isSlash special c then rest else cs
  | [] => []

/-- The path after an authority. Only in a scheme of its own may it be missing. -/
def pathAfterAuthority (special : Bool) (written : List Char) : List Char :=
  if written.isEmpty && !special then []
  else renderSegments (segmentsOf special false (dropSlash special written))

/-- What follows two slashes. -/
def readHierarchy? (ascii : ToAscii) (scheme : String) (cs : List Char) : Option Url := do
  let (authority, rest) ← readAuthority? ascii scheme cs
  let (written, rest) := rest.span (!endsPath ·)
  return assemble scheme (some authority) (pathAfterAuthority (isSpecial scheme) written) rest

/-- The path of a file URL: slashes at its start count once. -/
def filePath (segments : List (List Char)) : List Char :=
  '/' :: (renderSegments segments).dropWhile (· == '/')

/-- A file URL from its host and its written path. A drive at the start of the path takes the
place of the host. -/
def fileUrl (host : Host) (written rest : List Char) : Url :=
  let segments := segmentsOf true true written
  let host := match segments with
    | first :: _ => if isDrive first then .empty else host
    | [] => host
  assemble "file" (some (.ofHost host)) (filePath segments) rest

/-- What follows the scheme of a file URL. -/
def readFile? (ascii : ToAscii) (cs : List Char) : Option Url :=
  match cs with
  | a :: b :: afterSlashes =>
    if isSlash true a && isSlash true b then
      let (host, afterHost) := afterSlashes.span (!endsAuthority true ·)
      if host.isEmpty || isDrive host then
        let (written, rest) := afterSlashes.span (!endsPath ·)
        some (fileUrl .empty written rest)
      else
        match Host.parse? ascii true host with
        | none => none
        | some host =>
          let (written, rest) := afterHost.span (!endsPath ·)
          if host = .named "localhost" then some (fileUrl .empty written rest)
          else some (fileUrl host (dropSlash true written) rest)
    else withoutHost
  | _ => withoutHost
where
  withoutHost : Option Url :=
    let (written, rest) := cs.span (!endsPath ·)
    some (fileUrl .empty (dropSlash true written) rest)

/-- What follows a scheme of its own. -/
def readOther? (ascii : ToAscii) (scheme : String) (cs : List Char) : Option Url :=
  match cs with
  | '/' :: '/' :: rest => readHierarchy? ascii scheme rest
  | '/' :: rest =>
    let (written, rest) := rest.span (!endsPath ·)
    some (assemble scheme none (renderSegments (segmentsOf false false written)) rest)
  | _ =>
    let (written, rest) := cs.span (!endsPath ·)
    some (assemble scheme none (escape [] written) rest)

/-- The absolute URL that a text spells. -/
def parse? (ascii : ToAscii) (text : String) : Option Url :=
  match splitScheme? (relevant text.toList) with
  | none => none
  | some ("file", rest) => readFile? ascii rest
  | some (scheme, rest) =>
    if isSpecial scheme then readHierarchy? ascii scheme (rest.dropWhile (isSlash true))
    else readOther? ascii scheme rest

end ImageImports.Url
