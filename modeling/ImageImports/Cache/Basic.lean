import ImageImports.Bytes.Uuid
import ImageImports.ContentHash
import ImageImports.FileSystem.Operations
import ImageImports.Path.Anchor
import ImageImports.Warning

/-!
# Image caches

A flat directory of image files, each named by the hash of its bytes and an ending.

## Main definitions

* `Cache`: a directory, the spelling of its names, and whether files that are there are kept.
* `Cache.openAt`: the cache in a directory that is made if it is missing.
* `Cache.pathFor`: the path of a byte string.
* `Cache.tempPath`: a path for bytes that are still being written.
-/

namespace ImageImports

/-- A directory of image files. -/
structure Cache where
  directory : Path
  encoding : HashEncoding
  skipExisting : Bool

namespace Cache

/-- A relative directory that does not start with `public`, as it is written. -/
def isOutsidePublic (directory : Path) : Bool :=
  !directory.isAbsolute &&
    directory.components.find? (· != .current) != some (.named (Utf8.encode "public"))

/-- What comes of opening a cache. -/
structure Opening where
  files : FileSystem
  warnings : List Warning
  result : Except ConfigError Cache

/-- Opens the cache in a directory, which is read from the working directory and made if it is
missing. The host is warned of a directory that may not be served. -/
def openAt (workingDirectory : Option Path) (directory : Path) (encoding : HashEncoding)
    (skipExisting : Bool) (files : FileSystem) : Opening :=
  let warnings := if isOutsidePublic directory then [.outsidePublic] else []
  match directory.anchor workingDirectory with
  | .error cause => ⟨files, warnings, .error (.cacheDirectory directory cause)⟩
  | .ok anchored =>
    match files.makeDirectories anchored with
    | (files, .error cause) => ⟨files, warnings, .error (.cacheDirectory anchored cause)⟩
    | (files, .ok ()) => ⟨files, warnings, .ok ⟨anchored, encoding, skipExisting⟩⟩

/-- The path of a byte string. It depends on the bytes and on the ending only. -/
def pathFor (c : Cache) (bytes : ByteArray) (extension : String) : Path :=
  c.directory.join (.ofText (contentHash bytes c.encoding ++ extension))

/-- A path for bytes that are still being written, unlike that of every other store. -/
def tempPath (c : Cache) (draw : Uuid) : Path :=
  c.directory.join (.ofText s!".{draw.digits}.tmp")

end Cache

end ImageImports
