import ImageImports.Url.Host

/-!
# URLs

A URL in its parts. Two texts name the same URL when they have the same parts in normal spelling.

## Main definitions

* `Url`: scheme, authority, path, query and fragment.
* `Url.render`: the normal spelling of a URL.
-/

namespace ImageImports

namespace Url

/-- Who is asked, and where: user name, password, host and port. A port that the scheme implies
is left out. -/
structure Authority where
  username : String
  password : Option String
  host : Host
  port : Option Nat
  deriving DecidableEq, Repr

/-- The authority that consists of a host. -/
def Authority.ofHost (host : Host) : Authority := ⟨"", none, host, none⟩

/-- The normal spelling of an authority. -/
def Authority.render (a : Authority) : String :=
  let user := match a.password with
    | some password => a.username ++ ":" ++ password ++ "@"
    | none => if a.username.isEmpty then "" else a.username ++ "@"
  let port := match a.port with
    | some port => s!":{port}"
    | none => ""
  user ++ a.host.render ++ port

end Url

/-- A URL in its parts, all of them escaped. -/
structure Url where
  scheme : String
  authority : Option Url.Authority
  path : String
  query : Option String
  fragment : Option String
  deriving DecidableEq, Repr

namespace Url

/-- What stands before the path: the authority, or `/.` where the path could be taken for one. -/
def beforePath (url : Url) : String :=
  match url.authority with
  | some authority => "//" ++ authority.render
  | none =>
    match url.path.toList with
    | '/' :: '/' :: _ => "/."
    | _ => ""

/-- The normal spelling of a URL. -/
def render (url : Url) : String :=
  let query := match url.query with
    | some query => "?" ++ query
    | none => ""
  let fragment := match url.fragment with
    | some fragment => "#" ++ fragment
    | none => ""
  url.scheme ++ ":" ++ url.beforePath ++ url.path ++ query ++ fragment

end Url

end ImageImports
