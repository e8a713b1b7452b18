import ImageImports.Error
import ImageImports.Fetch.Response
import ImageImports.Url.Parse

/-!
# Transports

A transport makes one request. What it answers depends on the URL and on how often that URL was
asked for before, so a run can be told from its start.

## Main definitions

* `Reply`: a response or an error, and the time until it is there.
* `Transport`: the replies to all requests.
* `Transport.http`: the transport that refuses what is not reached over HTTP.
-/

namespace ImageImports

/-- A response or an error, and the time from the request to it. -/
structure Reply where
  stall : Duration
  outcome : Except FetchError Response

/-- The reply to each request for a URL, the first one having number zero. -/
abbrev Transport := Url → Nat → Reply

namespace Transport

/-- The refusal of a URL whose scheme cannot be served. -/
def refusal (url : Url) : FetchError :=
  .unsupported url.render s!"unsupported scheme {Text.quote url.scheme}"

/-- A network behind a check of the scheme. What is not reached over HTTP is refused at once. -/
def http (network : Transport) : Transport := fun url asked =>
  if url.scheme == "http" || url.scheme == "https" then network url asked
  else ⟨.zero, .error (refusal url)⟩

end Transport

end ImageImports
