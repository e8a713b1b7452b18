/-!
# File systems

What is there, and where: every place below the root holds nothing, a directory or a file. A place
is told by the names on the way to it. There are no links, so no two ways lead to one place
except by dots.

## Main definitions

* `Location`: the names on the way from the root to a place.
* `Entry`: a directory, or a file with its bytes.
* `FileSystem`: the entries at all places.
* `FileSystem.entryAt?`: the entry at a place; every other definition is told by it.
* `FileSystem.put`, `FileSystem.erase`: one entry set, or taken away.

## Main results

* `FileSystem.entryAt?_put`, `FileSystem.entryAt?_erase`: what becomes of each place.
-/

namespace ImageImports

/-- The names on the way from the root to a place. -/
abbrev Location := List (List UInt8)

/-- What a place holds. -/
inductive Entry where
  | directory
  | file (bytes : ByteArray)

/-- The entries of a file system. The root is not listed. -/
structure FileSystem where
  entries : List (Location × Entry)

namespace FileSystem

/-- The file system with nothing but a root. -/
def empty : FileSystem := ⟨[]⟩

/-- The entry at a place. The root is always a directory. -/
def entryAt? (files : FileSystem) (place : Location) : Option Entry :=
  if place = [] then some .directory else files.entries.lookup place

/-- The entries at all places but one. -/
def erase (files : FileSystem) (place : Location) : FileSystem :=
  ⟨files.entries.filter fun (known, _) => known ≠ place⟩

/-- The file system with an entry set. -/
def put (files : FileSystem) (place : Location) (entry : Entry) : FileSystem :=
  ⟨(place, entry) :: (files.erase place).entries⟩

@[simp] theorem entryAt?_root (files : FileSystem) : files.entryAt? [] = some .directory := by
  simp [entryAt?]

theorem lookup_filter_ne (entries : List (Location × Entry)) (place other : Location) :
    (entries.filter fun (known, _) => known ≠ place).lookup other =
      if other = place then none else entries.lookup other := by
  induction entries with
  | nil => simp
  | cons pair rest ih =>
    obtain ⟨known, entry⟩ := pair
    by_cases hk : known = place
    · subst hk
      by_cases ho : other = known
      · subst ho
        simpa using ih
      · have hb : (other == known) = false := by simpa using ho
        simpa [List.lookup_cons, ho, hb] using ih
    · by_cases ho : other = known
      · subst ho
        simp [hk]
      · have hb : (other == known) = false := by simpa using ho
        simpa [List.lookup_cons, hk, hb] using ih

/-- An erased place holds nothing, and every other place what it held. -/
theorem entryAt?_erase (files : FileSystem) {place : Location} (hplace : place ≠ [])
    (other : Location) :
    (files.erase place).entryAt? other = if other = place then none else files.entryAt? other := by
  by_cases ho : other = []
  · subst ho
    simp [Ne.symm hplace]
  · simp only [entryAt?, erase, if_neg ho]
    exact lookup_filter_ne files.entries place other

/-- A place that is set holds the new entry, and every other place what it held. -/
theorem entryAt?_put (files : FileSystem) {place : Location} (hplace : place ≠ []) (entry : Entry)
    (other : Location) :
    (files.put place entry).entryAt? other =
      if other = place then some entry else files.entryAt? other := by
  by_cases ho : other = []
  · subst ho
    simp [Ne.symm hplace]
  · by_cases h : other = place
    · subst h
      simp [entryAt?, put, ho]
    · have hb : (other == place) = false := by simpa using h
      have herase := lookup_filter_ne files.entries place other
      rw [if_neg h] at herase
      simpa [entryAt?, put, erase, ho, h, List.lookup_cons, hb] using herase

end FileSystem

end ImageImports
