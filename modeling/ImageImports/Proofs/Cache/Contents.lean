import ImageImports.Proofs.Cache.FileNames

/-!
# Contents of cached files

The file of some bytes is named by their digest, so files of different digests are in different
places, and none of them is in the place of a file that is still being written. A cache is right
about some bytes if a file of their length at their path holds them.

## Main definitions

* `Cache.IsPathOf`: a path is the one of some bytes.
* `Cache.IsRightAbout`: a file that would be kept for some bytes holds them.

## Main results

* `Cache.IsPathOf.place_ne_temp`, `Cache.IsPathOf.digest_eq`: what the place of a file tells.
-/

namespace ImageImports.Cache

open FileSystem

/-- A path is the one of some bytes, with an ending that has no slash. -/
def IsPathOf (c : Cache) (p : Path) (bytes : ByteArray) : Prop :=
  ∃ extension, '/' ∉ extension.toList ∧ p = c.pathFor bytes extension

/-- A file that would be kept for some bytes holds them. -/
def IsRightAbout (c : Cache) (files : FileSystem) (p : Path) (bytes : ByteArray) : Prop :=
  c.skipExisting = true → files.hasFile p bytes.size = true → files.read p = .ok bytes

variable {c : Cache} {files : FileSystem} {p target : Path} {bytes other : ByteArray} {draw : Uuid}

/-- The file of some bytes is in another place than every file that is still being written. -/
theorem IsPathOf.place_ne_temp (h : c.IsPathOf p bytes) {place temp : Location}
    (hplace : files.locate p = .ok place) (htemp : files.locate (c.tempPath draw) = .ok temp) :
    place ≠ temp := by
  obtain ⟨extension, hslash, rfl⟩ := h
  have hlast := getLast?_of_locate_join (c.isFileName_fileName bytes hslash) hplace
  have htempLast := getLast?_of_locate_join (isFileName_tempName draw) htemp
  rintro rfl
  rw [hlast, Option.some.injEq] at htempLast
  exact c.fileName_ne_tempName bytes extension draw (Utf8.encode_injective htempLast)

/-- Files in one place are those of bytes with one digest. -/
theorem IsPathOf.digest_eq (h : c.IsPathOf p bytes) (h' : c.IsPathOf target other)
    {place : Location} (hplace : files.locate p = .ok place)
    (htarget : files.locate target = .ok place) :
    Sha256.digest bytes = Sha256.digest other := by
  obtain ⟨extension, hslash, rfl⟩ := h
  obtain ⟨ending, hslash', rfl⟩ := h'
  have hlast := getLast?_of_locate_join (c.isFileName_fileName bytes hslash) hplace
  have hlast' := getLast?_of_locate_join (c.isFileName_fileName other hslash') htarget
  rw [hlast, Option.some.injEq] at hlast'
  exact c.digest_eq_of_fileName_eq (Utf8.encode_injective hlast')

end ImageImports.Cache
