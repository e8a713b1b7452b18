import ImageImports.Proofs.FileSystem.Location
import Mathlib.Tactic.SplitIfs

/-!
# Names that a directory admits

A name leads to a place in a directory just if it has no zero byte, is not too long, and does
not make the path too long. It does not matter what the directory holds.

## Main definitions

* `FileSystem.Admits`: a name may be used in a directory.

## Main results

* `FileSystem.locate_join_eq_ok_iff`: a directory admits the names that lead to a place in it.
* `FileSystem.cause_of_locate_join`: why a name leads nowhere.
-/

namespace ImageImports

namespace Path

/-- The bytes that come before the name of a file in a directory. -/
def above (base : Path) : List UInt8 :=
  match base.bytes.getLast? with
  | none => []
  | some last => if last = slash then base.bytes else base.bytes ++ [slash]

theorem bytes_join {base rest : Path} (h : rest.isAbsolute = false) :
    (base.join rest).bytes = base.above ++ rest.bytes := by
  rw [join, h, above, if_neg Bool.false_ne_true]
  cases base.bytes.getLast? with
  | none => rfl
  | some last => by_cases hslash : last = slash <;> simp [hslash]

theorem mem_above {base : Path} {b : UInt8} (h : b ∈ base.above) :
    b ∈ base.bytes ∨ b = slash := by
  rw [above] at h
  split at h
  · cases h
  · split at h
    · exact .inl h
    · exact (List.mem_append.mp h).imp_right List.mem_singleton.mp

theorem IsFileName.getLast?_join {name : List UInt8} (h : IsFileName name) (base : Path) :
    (base.join ⟨name⟩).bytes.getLast? ≠ some Path.slash := by
  rw [bytes_join (isAbsolute_of_isFileName h)]
  cases hlast : name.getLast? with
  | none =>
    have hnamed := h.named
    rw [List.getLast?_eq_none_iff.mp hlast] at hnamed
    cases hnamed
  | some last =>
    rw [List.getLast?_append, hlast]
    intro heq
    rw [Option.some_or, Option.some.injEq] at heq
    exact h.noSlash (heq ▸ List.mem_of_getLast? hlast)

end Path

namespace FileSystem

/-- A name may be used in a directory: it has no zero byte and is not too long, and neither is
its path. -/
structure Admits (base : Path) (name : List UInt8) : Prop where
  noNul : 0 ∉ name
  size : name.length ≤ nameLimit
  pathSize : (base.join ⟨name⟩).bytes.length ≤ pathLimit

variable {files : FileSystem} {base : Path} {directory : Location} {name : List UInt8}

section

variable (hbase : files.locate base = .ok directory)
  (hentry : files.entryAt? directory = some .directory) (hname : Path.IsFileName name)

include hbase hentry hname

theorem walk_join : files.walk [] (Path.splitSlash (base.join ⟨name⟩).bytes) =
    if nameLimit < name.length then .error .nameTooLong else .ok (directory ++ [name]) := by
  obtain ⟨segments, hsegments, hopening⟩ := base.exists_segments
  have hwalk : files.walk [] segments = .ok directory := by
    rw [locate] at hbase
    split at hbase
    · cases hbase
    · rcases hopening with hsame | hempty
      · rwa [hsame] at hbase
      · rw [hempty] at hbase
        obtain ⟨found, hfound, henter⟩ := exists_enter_of_walk hbase
        have hsame : files.enter found [] = .ok found := by
          rw [enter, entryAt?_of_enter henter]
          rfl
        rw [hfound, ← Except.ok.inj (hsame.symm.trans henter)]
  rw [hsegments name hname.noSlash, walk_append, hwalk, Except.bind, walk, enter, hentry,
    hname.named]
  by_cases hlong : nameLimit < name.length
  · rw [if_pos hlong]
    simp only [if_pos hlong]
  · rw [if_neg hlong]
    simp only [if_neg hlong, walk]

/-- Where a name leads, or what is in its way. -/
theorem locate_join : files.locate (base.join ⟨name⟩) =
    if 0 ∈ name then .error .nulInName
    else if pathLimit < (base.join ⟨name⟩).bytes.length then .error .nameTooLong
    else if nameLimit < name.length then .error .nameTooLong
    else .ok (directory ++ [name]) := by
  have hnul : (base.join ⟨name⟩).bytes.contains 0 = true ↔ 0 ∈ name := by
    have hfree : 0 ∉ base.above := by
      intro hmem
      have hmem := (Path.mem_above hmem).resolve_right (by decide)
      rw [locate, refusal?, if_pos (List.contains_iff_mem.mpr hmem)] at hbase
      cases hbase
    rw [Path.bytes_join (Path.isAbsolute_of_isFileName hname), List.contains_iff_mem,
      List.mem_append]
    exact or_iff_right hfree
  rw [locate, refusal?]
  by_cases hmem : 0 ∈ name
  · rw [if_pos (hnul.mpr hmem), if_pos hmem]
  · rw [if_neg (mt hnul.mp hmem), if_neg hmem]
    by_cases hpath : pathLimit < (base.join ⟨name⟩).bytes.length
    · rw [if_pos hpath, if_pos hpath]
    · rw [if_neg hpath, if_neg hpath]
      exact walk_join hbase hentry hname

/-- A directory admits the names that lead to a place in it. -/
theorem locate_join_eq_ok_iff {place : Location} : files.locate (base.join ⟨name⟩) = .ok place ↔
    Admits base name ∧ place = directory ++ [name] := by
  rw [locate_join hbase hentry hname]
  constructor
  · intro h
    split_ifs at h with hnul hpath hlong
    exact ⟨⟨hnul, Nat.le_of_not_lt hlong, Nat.le_of_not_lt hpath⟩, (Except.ok.inj h).symm⟩
  · rintro ⟨hadmits, rfl⟩
    rw [if_neg hadmits.noNul, if_neg (Nat.not_lt_of_le hadmits.pathSize),
      if_neg (Nat.not_lt_of_le hadmits.size)]

/-- In a directory that holds nothing, no name leads to a directory. -/
theorem entryAt?_ne_directory_of_empty
    (hempty : ∀ name, files.entryAt? (directory ++ [name]) = none) (place : Location)
    (h : files.locate (base.join ⟨name⟩) = .ok place) :
    files.entryAt? place ≠ some .directory := by
  rw [((locate_join_eq_ok_iff hbase hentry hname).mp h).2, hempty]
  exact nofun

/-- A name that leads nowhere is not admitted. It is too long, or its path is, or it has a zero
byte. -/
theorem cause_of_locate_join {cause : FileError}
    (h : files.locate (base.join ⟨name⟩) = .error cause) :
    ¬ Admits base name ∧ (cause = .nameTooLong ∨ cause = .nulInName ∧ 0 ∈ name) := by
  refine ⟨fun hadmits => ?_, ?_⟩
  · rw [(locate_join_eq_ok_iff hbase hentry hname).mpr ⟨hadmits, rfl⟩] at h
    cases h
  · rw [locate_join hbase hentry hname] at h
    split_ifs at h with hnul hpath hlong
    · exact .inr ⟨(Except.error.inj h).symm, hnul⟩
    · exact .inl (Except.error.inj h).symm
    · exact .inl (Except.error.inj h).symm

end

theorem locateFile_join (files : FileSystem) (base : Path) (hname : Path.IsFileName name) :
    files.locateFile (base.join ⟨name⟩) = files.locate (base.join ⟨name⟩) :=
  if_neg (hname.getLast?_join base)

end FileSystem

end ImageImports
