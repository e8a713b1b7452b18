import ImageImports.Error
import ImageImports.FileSystem.Basic

/-!
# Finding places

The place that a path names is found by walking it from the root, one segment after another. Every
place on the way has to be a directory, and `..` leads to the directory above, or stays at the
root.

## Main definitions

* `FileSystem.enter`: one segment of a walk.
* `FileSystem.walk`: a walk.
* `FileSystem.locate`: the place that a path names, whether it holds anything or not.
-/

namespace ImageImports.FileSystem

/-- The longest name, in bytes. -/
def nameLimit : Nat := 255

/-- The longest path, in bytes. -/
def pathLimit : Nat := 4095

/-- The place to which one segment leads from another place. -/
def enter (files : FileSystem) (place : Location) (segment : List UInt8) :
    Except FileError Location :=
  match files.entryAt? place with
  | none => .error .notFound
  | some (.file _) => .error .notDirectory
  | some .directory =>
    match Path.componentOf? segment with
    | some (.named name) =>
      if nameLimit < name.length then .error .nameTooLong else .ok (place ++ [name])
    | some .parent => .ok place.dropLast
    | _ => .ok place

/-- The place to which several segments lead, one after another. -/
def walk (files : FileSystem) : Location → List (List UInt8) → Except FileError Location
  | place, [] => .ok place
  | place, segment :: rest =>
    match files.enter place segment with
    | .error cause => .error cause
    | .ok next => walk files next rest

/-- What keeps a path from being walked at all. -/
def refusal? (p : Path) : Option FileError :=
  if p.bytes.contains 0 then some .nulInName
  else if pathLimit < p.bytes.length then some .nameTooLong
  else none

/-- The place that a path names. It need not hold anything. -/
def locate (files : FileSystem) (p : Path) : Except FileError Location :=
  match refusal? p with
  | some cause => .error cause
  | none => files.walk [] (Path.splitSlash p.bytes)

/-- Bytes without the slashes at their end. -/
def trimSlashes (bytes : List UInt8) : List UInt8 :=
  (bytes.reverse.dropWhile (· == Path.slash)).reverse

/-- The place to which a file can be moved. A slash at the end of the path would ask for a
directory. -/
def locateFile (files : FileSystem) (p : Path) : Except FileError Location :=
  if p.bytes.getLast? = some Path.slash then
    match files.locate ⟨trimSlashes p.bytes⟩ with
    | .error cause => .error cause
    | .ok _ => .error .notDirectory
  else files.locate p

end ImageImports.FileSystem
