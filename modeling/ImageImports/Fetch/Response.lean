/-!
# Responses

What a server answers: a status, headers and a body.

## Main definitions

* `Response`: a status, headers in the order in which they were sent, and perhaps a body.
* `Response.header?`: the first value that a header has.
* `Response.isSuccess`: the request was served.
-/

namespace ImageImports

/-- What a server answers to a request. -/
structure Response where
  status : UInt16
  headers : List (String × String)
  body : Option ByteArray

namespace Response

/-- Two header names are the same when they differ in the case of ASCII letters only. -/
def sameName (name other : String) : Bool :=
  name.toList.map Char.toLower == other.toList.map Char.toLower

/-- The value of the first header with a name. -/
def header? (r : Response) (name : String) : Option String :=
  (r.headers.find? fun (known, _) => sameName known name).map Prod.snd

/-- The request was served: the status is one of 200 to 299. -/
def isSuccess (r : Response) : Bool := 200 ≤ r.status && r.status < 300

/-- There is no body, or nothing in it. -/
def isEmpty (r : Response) : Bool := r.body.all ByteArray.isEmpty

end Response

end ImageImports
