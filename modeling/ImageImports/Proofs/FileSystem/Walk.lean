import ImageImports.FileSystem.Operations

/-!
# Walks and file names

Where a path leads depends on the directories only. So files may come and go without any path
leading elsewhere, and two paths to one place end with one name.

## Main definitions

* `Path.IsFileName`: bytes that name a file as they stand.
* `FileSystem.SameDirectories`: two file systems have the same directories.

## Main results

* `FileSystem.locate_eq_ok_iff`: paths lead to the same places where the directories are the same.
* `FileSystem.getLast?_of_locate_join`: a path to a named file ends with the name.
* `FileSystem.read_eq_ok_iff`, `FileSystem.hasFile_iff`: what is read, by places.
* `FileSystem.exists_of_create`, `FileSystem.exists_of_write`, `FileSystem.exists_of_rename`,
  `FileSystem.exists_of_remove`: what operations that succeed have changed.
-/

namespace ImageImports

/-! ### Segments of a path -/

namespace Path

theorem splitSlash_ne_nil (bytes : List UInt8) : splitSlash bytes ≠ [] := by
  cases bytes with
  | nil => simp [splitSlash]
  | cons c rest =>
    rw [splitSlash]
    split
    · simp
    · split <;> simp

theorem splitSlash_append (bytes rest : List UInt8) :
    splitSlash (bytes ++ Path.slash :: rest) = splitSlash bytes ++ splitSlash rest := by
  induction bytes with
  | nil => simp [splitSlash]
  | cons c bytes ih =>
    rw [List.cons_append, splitSlash, ih, splitSlash]
    split
    · rfl
    · cases h : splitSlash bytes with
      | nil => exact absurd h (splitSlash_ne_nil bytes)
      | cons segment segments => rfl

theorem splitSlash_of_notMem {bytes : List UInt8} (h : Path.slash ∉ bytes) :
    splitSlash bytes = [bytes] := by
  induction bytes with
  | nil => rfl
  | cons c bytes ih =>
    rw [List.mem_cons, not_or] at h
    rw [splitSlash, if_neg (Ne.symm h.1), ih h.2]

/-- Bytes that name a file as they stand. -/
structure IsFileName (name : List UInt8) : Prop where
  noSlash : Path.slash ∉ name
  named : componentOf? name = some (.named name)

/-- A file in a directory is named by the last segment of its path. The segments before that are
those of the directory, of which the last may be empty. -/
theorem exists_segments (base : Path) : ∃ segments,
    (∀ name : List UInt8, slash ∉ name →
      splitSlash (base.join ⟨name⟩).bytes = segments ++ [name]) ∧
    (splitSlash base.bytes = segments ∨
      splitSlash base.bytes = segments ++ [[]]) := by
  have hrelative (name : List UInt8) (hname : slash ∉ name) : isAbsolute ⟨name⟩ = false := by
    rw [isAbsolute, beq_eq_false_iff_ne]
    exact fun hhead => hname (List.mem_of_mem_head? hhead)
  cases hlast : base.bytes.getLast? with
  | none =>
    refine ⟨[], fun name hname => ?_, .inr ?_⟩
    · rw [join, hrelative name hname, hlast]
      exact splitSlash_of_notMem hname
    · rw [List.getLast?_eq_none_iff.mp hlast]
      rfl
  | some last =>
    by_cases hslash : last = slash
    · subst hslash
      obtain ⟨before, hbefore⟩ := List.getLast?_eq_some_iff.mp hlast
      refine ⟨splitSlash before, fun name hname => ?_, .inr ?_⟩
      · have hjoined : (base.join ⟨name⟩).bytes = before ++ slash :: name := by
          rw [join, hrelative name hname, hlast]
          simp [hbefore]
        rw [hjoined, splitSlash_append, splitSlash_of_notMem hname]
      · rw [hbefore, splitSlash_append]
        rfl
    · refine ⟨splitSlash base.bytes, fun name hname => ?_, .inl rfl⟩
      have hjoined : (base.join ⟨name⟩).bytes = base.bytes ++ slash :: name := by
        rw [join, hrelative name hname, hlast]
        simp [hslash]
      rw [hjoined, splitSlash_append, splitSlash_of_notMem hname]

end Path

/-! ### Walks -/

namespace FileSystem

/-- Two file systems have the same directories. -/
def SameDirectories (files other : FileSystem) : Prop :=
  ∀ place, files.entryAt? place = some .directory ↔ other.entryAt? place = some .directory

theorem SameDirectories.symm {files other : FileSystem} (h : files.SameDirectories other) :
    other.SameDirectories files := fun place => (h place).symm

theorem SameDirectories.trans {files other last : FileSystem} (h : files.SameDirectories other)
    (h' : other.SameDirectories last) : files.SameDirectories last :=
  fun place => (h place).trans (h' place)

theorem sameDirectories_put {files : FileSystem} {place : Location} (bytes : ByteArray)
    (hplace : files.entryAt? place ≠ some .directory) :
    files.SameDirectories (files.put place (.file bytes)) := by
  have htop : place ≠ [] := fun hnil => hplace (by rw [hnil, entryAt?_root])
  intro other
  rw [entryAt?_put files htop]
  by_cases hother : other = place
  · subst hother
    simp [hplace]
  · rw [if_neg hother]

theorem sameDirectories_erase {files : FileSystem} {place : Location}
    (hplace : files.entryAt? place ≠ some .directory) :
    files.SameDirectories (files.erase place) := by
  have htop : place ≠ [] := fun hnil => hplace (by rw [hnil, entryAt?_root])
  intro other
  rw [entryAt?_erase files htop]
  by_cases hother : other = place
  · subst hother
    simp [hplace]
  · rw [if_neg hother]

variable {files other : FileSystem}

theorem entryAt?_of_enter {place found : Location} {segment : List UInt8}
    (h : files.enter place segment = .ok found) : files.entryAt? place = some .directory := by
  rw [enter] at h
  split at h
  · cases h
  · cases h
  next hplace => exact hplace

theorem enter_of_sameDirectories (h : files.SameDirectories other) {place found : Location}
    {segment : List UInt8} (henter : files.enter place segment = .ok found) :
    other.enter place segment = .ok found := by
  have hplace := entryAt?_of_enter henter
  rw [enter, hplace] at henter
  rw [enter, (h place).mp hplace]
  exact henter

theorem walk_of_sameDirectories (h : files.SameDirectories other) {place found : Location}
    {segments : List (List UInt8)} (hwalk : files.walk place segments = .ok found) :
    other.walk place segments = .ok found := by
  induction segments generalizing place with
  | nil => exact hwalk
  | cons segment rest ih =>
    rw [walk] at hwalk
    split at hwalk
    · cases hwalk
    next next henter =>
      rw [walk, enter_of_sameDirectories h henter]
      exact ih hwalk

/-- Paths lead to the same places where the directories are the same. -/
theorem locate_eq_ok_iff (h : files.SameDirectories other) {p : Path} {place : Location} :
    files.locate p = .ok place ↔ other.locate p = .ok place := by
  rw [locate, locate]
  cases refusal? p with
  | some cause => simp
  | none => exact ⟨walk_of_sameDirectories h, walk_of_sameDirectories h.symm⟩

/-- A walk that ends with a segment ends by entering it. -/
theorem exists_enter_of_walk {place found : Location} {segments : List (List UInt8)}
    {last : List UInt8} (h : files.walk place (segments ++ [last]) = .ok found) :
    ∃ directory, files.walk place segments = .ok directory ∧
      files.enter directory last = .ok found := by
  induction segments generalizing place with
  | nil =>
    rw [List.nil_append, walk] at h
    split at h
    · cases h
    next next henter =>
      obtain rfl := Except.ok.inj h
      exact ⟨place, rfl, henter⟩
  | cons segment rest ih =>
    rw [List.cons_append, walk] at h
    split at h
    · cases h
    next next henter =>
      obtain ⟨directory, hwalk, hlast⟩ := ih h
      refine ⟨directory, ?_, hlast⟩
      rw [walk, henter]
      exact hwalk

/-- The place of a named file ends with the name. -/
theorem getLast?_of_locate_join {base : Path} {name : List UInt8} (hname : Path.IsFileName name)
    {place : Location} (h : files.locate (base.join ⟨name⟩) = .ok place) :
    place.getLast? = some name := by
  obtain ⟨segments, hsegments, -⟩ := base.exists_segments
  rw [locate] at h
  split at h
  · cases h
  · rw [hsegments name hname.noSlash] at h
    obtain ⟨directory, -, henter⟩ := exists_enter_of_walk h
    rw [enter, entryAt?_of_enter henter, hname.named] at henter
    dsimp only at henter
    split at henter
    · cases henter
    · obtain rfl := Except.ok.inj henter
      exact List.getLast?_concat

/-- A file is moved to where its path leads. -/
theorem locate_of_locateFile {p : Path} {place : Location} (h : files.locateFile p = .ok place) :
    files.locate p = .ok place := by
  rw [locateFile] at h
  split at h
  · split at h <;> cases h
  · exact h

/-! ### What is read -/

theorem read_eq_ok_iff {p : Path} {bytes : ByteArray} : files.read p = .ok bytes ↔
    ∃ place, files.locate p = .ok place ∧ files.entryAt? place = some (.file bytes) := by
  rw [read, entry]
  cases files.locate p with
  | error cause => simp
  | ok place =>
    cases hentry : files.entryAt? place with
    | none => simp [hentry]
    | some found => cases found <;> simp [hentry]

theorem hasFile_iff {p : Path} {size : Nat} : files.hasFile p size = true ↔
    ∃ place bytes, files.locate p = .ok place ∧ files.entryAt? place = some (.file bytes) ∧
      bytes.size = size := by
  rw [hasFile, entry]
  cases files.locate p with
  | error cause => simp
  | ok place =>
    cases hentry : files.entryAt? place with
    | none => simp [hentry]
    | some found => cases found <;> simp [hentry]

/-! ### Operations that succeed -/

variable {changed : FileSystem}

theorem exists_of_create {p : Path} (h : files.create p = .ok changed) :
    ∃ place, files.locate p = .ok place ∧ files.entryAt? place ≠ some .directory ∧
      changed = files.put place (.file .empty) := by
  rw [create] at h
  split at h
  · cases h
  next place hplace =>
    split at h
    · cases h
    next hentry =>
      obtain rfl := Except.ok.inj h
      exact ⟨place, hplace, hentry, rfl⟩

theorem exists_of_write {p : Path} {bytes : ByteArray} (h : files.write p bytes = .ok changed) :
    ∃ place, files.locate p = .ok place ∧ files.entryAt? place ≠ some .directory ∧
      changed = files.put place (.file bytes) := by
  rw [write] at h
  split at h
  · cases h
  next place hplace =>
    split at h
    · cases h
    · cases h
    next old hentry =>
      obtain rfl := Except.ok.inj h
      exact ⟨place, hplace, by simp [hentry], rfl⟩

theorem exists_of_rename {source target : Path} (h : files.rename source target = .ok changed) :
    ∃ old new bytes, files.locate source = .ok old ∧ files.locate target = .ok new ∧
      files.entryAt? old = some (.file bytes) ∧ files.entryAt? new ≠ some .directory ∧
      changed = (files.erase old).put new (.file bytes) := by
  rw [rename] at h
  split at h
  · cases h
  · cases h
  next old new hold hnew =>
    split at h
    · cases h
    · cases h
    · cases h
    next bytes hbytes hentry =>
      obtain rfl := Except.ok.inj h
      exact ⟨old, new, bytes, hold, locate_of_locateFile hnew, hbytes, hentry, rfl⟩

theorem exists_of_remove {p : Path} (h : files.remove p = .ok changed) :
    ∃ place bytes, files.locate p = .ok place ∧ files.entryAt? place = some (.file bytes) ∧
      changed = files.erase place := by
  rw [remove] at h
  split at h
  · cases h
  next place hplace =>
    split at h
    · cases h
    · cases h
    next bytes hentry =>
      obtain rfl := Except.ok.inj h
      exact ⟨place, bytes, hplace, hentry, rfl⟩

theorem not_file_of_remove {p : Path} {cause : FileError} (h : files.remove p = .error cause)
    {place : Location} (hplace : files.locate p = .ok place) (bytes : ByteArray) :
    files.entryAt? place ≠ some (.file bytes) := by
  intro hentry
  rw [remove, hplace] at h
  dsimp only at h
  rw [hentry] at h
  cases h

end FileSystem

end ImageImports
