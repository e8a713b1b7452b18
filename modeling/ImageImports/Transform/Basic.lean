import ImageImports.Cache.Basic
import ImageImports.Fetch.Retry
import ImageImports.Options.Basic
import ImageImports.Pattern

/-!
# Setting up a transform

The options of a host are checked once, and the cache is made ready. The transform that comes of
it serves any number of documents.

## Main definitions

* `Transform`: what a document is rewritten with.
* `Transform.Setup`: what comes of setting up a transform.
* `Transform.ofOptions`: sets up a transform.
-/

namespace ImageImports

/-- What a document is rewritten with: a cache, the spelling of the names of hosts, a way to fetch
images, the pattern of the names of element factories, the style of new names, and the time that an
image may take. -/
structure Transform where
  cache : Cache
  ascii : Url.ToAscii
  fetcher : Fetcher
  factoryPattern : Pattern
  identifiers : IdentifierStyle
  timeout : Option Duration

/-- The fetcher that a host configures. -/
def Options.fetcher (o : Options) (transport : Transport) (clock : Duration → Instant) : Fetcher :=
  ⟨transport, .ofOptions o.retry, clock⟩

namespace Transform

/-- What comes of setting up a transform. -/
structure Setup where
  files : FileSystem
  warnings : List Warning
  result : Except ConfigError Transform

/-- The transform on a cache that is ready. -/
def onCache (o : Options) (ascii : Url.ToAscii) (fetcher : Fetcher) (cache : Cache) :
    Except ConfigError Transform :=
  match Pattern.ofText? o.factoryPattern with
  | none => .error .invalidFactoryPattern
  | some pattern =>
    .ok ⟨cache, ascii, fetcher, pattern, o.identifiers, o.timeoutMs.map fun n => .ofMillis n.toNat⟩

/-- Sets up a transform. The cache directory is made before the pattern is read. -/
def ofOptions (o : Options) (ascii : Url.ToAscii) (fetcher : Fetcher)
    (workingDirectory : Option Path) (files : FileSystem) : Setup :=
  match o.cacheDirectory.filter fun directory => !directory.isEmpty with
  | none => ⟨files, [], .error .missingCacheDirectory⟩
  | some directory =>
    let opening := Cache.openAt workingDirectory directory o.hashEncoding o.skipExisting files
    ⟨opening.files, opening.warnings, opening.result.bind (onCache o ascii fetcher)⟩

end Transform

end ImageImports
