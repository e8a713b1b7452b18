import ImageImports.FileSystem.Locate

/-!
# File operations

Reading, writing and moving files, and making directories. An operation that fails changes
nothing, except that the directories made on the way to a missing one stay.

## Main definitions

* `FileSystem.read`: the bytes of a file.
* `FileSystem.create`, `FileSystem.write`: an empty file, and a file with new bytes.
* `FileSystem.rename`: a file moved over whatever file is there.
* `FileSystem.remove`: a file taken away.
* `FileSystem.makeDirectories`: a directory and all those above it.
-/

namespace ImageImports.FileSystem

/-- The entry that a path names. -/
def entry (files : FileSystem) (p : Path) : Except FileError Entry :=
  match files.locate p with
  | .error cause => .error cause
  | .ok place =>
    match files.entryAt? place with
    | none => .error .notFound
    | some found => .ok found

/-- The bytes of a file. -/
def read (files : FileSystem) (p : Path) : Except FileError ByteArray :=
  match files.entry p with
  | .error cause => .error cause
  | .ok .directory => .error .isDirectory
  | .ok (.file bytes) => .ok bytes

/-- A path names a file of a given size. -/
def hasFile (files : FileSystem) (p : Path) (size : Nat) : Bool :=
  match files.entry p with
  | .ok (.file bytes) => bytes.size == size
  | _ => false

/-- An empty file, new or in place of the file that was there. -/
def create (files : FileSystem) (p : Path) : Except FileError FileSystem :=
  match files.locate p with
  | .error cause => .error cause
  | .ok place =>
    match files.entryAt? place with
    | some .directory => .error .isDirectory
    | _ => .ok (files.put place (.file .empty))

/-- A file that is there, with new bytes. -/
def write (files : FileSystem) (p : Path) (bytes : ByteArray) : Except FileError FileSystem :=
  match files.locate p with
  | .error cause => .error cause
  | .ok place =>
    match files.entryAt? place with
    | none => .error .notFound
    | some .directory => .error .isDirectory
    | some (.file _) => .ok (files.put place (.file bytes))

/-- A file moved to another place, where it replaces a file but no directory. -/
def rename (files : FileSystem) (source target : Path) : Except FileError FileSystem :=
  match files.locate source, files.locateFile target with
  | .error cause, _ => .error cause
  | _, .error cause => .error cause
  | .ok old, .ok new =>
    match files.entryAt? old, files.entryAt? new with
    | none, _ => .error .notFound
    | some .directory, _ => .error .isDirectory
    | some (.file _), some .directory => .error .isDirectory
    | some (.file bytes), _ => .ok ((files.erase old).put new (.file bytes))

/-- A file taken away. -/
def remove (files : FileSystem) (p : Path) : Except FileError FileSystem :=
  match files.locate p with
  | .error cause => .error cause
  | .ok place =>
    match files.entryAt? place with
    | none => .error .notFound
    | some .directory => .error .isDirectory
    | some (.file _) => .ok (files.erase place)

/-- The directories along a walk, made where they are missing. A file on the way is no directory,
and one at the end is in the place of the directory asked for. -/
def makeAlong (files : FileSystem) (place : Location) :
    List (List UInt8) → FileSystem × Except FileError Unit
  | [] => (files, .ok ())
  | segment :: rest =>
    match files.enter place segment with
    | .error cause => (files, .error cause)
    | .ok next =>
      match files.entryAt? next with
      | some .directory => makeAlong files next rest
      | some (.file _) =>
        (files, .error (if rest.all Path.isIdle then .alreadyExists else .notDirectory))
      | none => makeAlong (files.put next .directory) next rest

/-- A directory and all those above it. -/
def makeDirectories (files : FileSystem) (p : Path) : FileSystem × Except FileError Unit :=
  match refusal? p with
  | some cause => (files, .error cause)
  | none => files.makeAlong [] (Path.splitSlash p.bytes)

end ImageImports.FileSystem
