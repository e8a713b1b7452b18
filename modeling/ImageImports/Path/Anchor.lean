import ImageImports.Error
import ImageImports.Path.Normalize

/-!
# Anchored paths

A relative path is read from the working directory, which may be gone.

## Main definitions

* `Path.anchor`: the normal absolute path that a path stands for.
-/

namespace ImageImports.Path

/-- The path in its normal form, read from the working directory if it is relative. -/
def anchor (workingDirectory : Option Path) (p : Path) : Except FileError Path :=
  if p.isAbsolute then .ok p.normalize
  else
    match workingDirectory with
    | none => .error .notFound
    | some directory => .ok (directory.join p).normalize

end ImageImports.Path
