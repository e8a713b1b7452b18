import ImageImports.Plan
import ImageImports.Transform.Basic

/-!
# Resolving images

The bytes of an image are read from a file or fetched. All images of a document start at one time,
each has the same time to come to its end, and all of them do, whatever becomes of the others.

## Main definitions

* `World`: what a transform finds around it.
* `Resolution`: the bytes of an image or an error, and what it took.
* `Transform.resolve`: the resolution of one image.
* `World.afterAll`: the world when all resolutions have come to their end.
-/

namespace ImageImports

/-- What a transform finds around it: files, a working directory unless it is gone, the time, and
how often each URL was asked for. -/
structure World where
  files : FileSystem
  workingDirectory : Option Path
  time : Duration
  asked : String → Nat

/-- What becomes of one image. A fetch that panics gives no result. -/
structure Resolution where
  starts : List Duration
  finish : Duration
  warnings : List Warning
  result : Option (Except TransformError ByteArray)

namespace Transform

/-- The bytes of an image that was fetched: the body of a request that was served. -/
def contentOf (url : Url) : Except FetchError Response → Except TransformError ByteArray
  | .error e => .error e.toTransformError
  | .ok response =>
    if !response.isSuccess then
      .error (.fetchFailed url.render s!"status {response.status.toNat}")
    else
      match response.body with
      | none => .error (.fetchFailed url.render "empty response body")
      | some body =>
        if body.isEmpty then .error (.fetchFailed url.render "empty response body") else .ok body

/-- The bytes of an image that is read. -/
def readLocal (files : FileSystem) (path : Path) : Except TransformError ByteArray :=
  (files.read path).mapError (.readFailed path)

/-- What becomes of one image. To read a file takes no time. -/
def resolve (t : Transform) (w : World) (image : PlannedImage) : Resolution :=
  match image.source with
  | .local path => ⟨[], w.time, [], some (readLocal w.files path)⟩
  | .remote url =>
    let run := t.fetcher.fetch url (w.asked url.render) w.time (t.timeout.map (w.time + ·))
    ⟨run.starts, run.finish, run.warnings,
      match run.ending with
      | .answered result => some (contentOf url result)
      | .cut => some (.error (.timeout image.reference (t.timeout.getD .zero)))
      | .panicked => none⟩

end Transform

namespace World

/-- The later of two times. -/
def later (a b : Duration) : Duration := ⟨max a.nanos b.nanos⟩

/-- The world after the resolution of an image. -/
def after (w : World) (image : PlannedImage) (r : Resolution) : World :=
  { w with
    time := later w.time r.finish
    asked := fun url =>
      if url = image.source.key then w.asked url + r.starts.length else w.asked url }

/-- The world when all resolutions have come to their end. -/
def afterAll (w : World) (resolutions : List (PlannedImage × Resolution)) : World :=
  resolutions.foldl (fun w (image, r) => w.after image r) w

end World

end ImageImports
