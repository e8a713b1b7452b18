import ImageImports.Cache.Store
import ImageImports.Proofs.FileSystem.Walk

/-!
# What one step of a store does

A step of a store changes what is at two places at most: that of the file that the bytes are
written to first, and, if that file is moved, the place where the bytes belong. Everything that is
said of stores whose steps come in any order is said by the ways in which a step may go.

## Main definitions

* `Cache.Storing.Takes`: the ways in which a step of a store may go.

## Main results

* `Cache.Storing.takes_step`: every step goes in one of these ways.
* `Cache.Storing.Takes.sameDirectories`: no step changes a directory.
* `Cache.Storing.Takes.entryAt?`: what a step leaves at each place.
-/

namespace ImageImports.Cache.Storing

open FileSystem

/-- The ways in which a step of a store may go: from the store and the files before the step to
those after it. -/
inductive Takes (skipExisting : Bool) (s : Storing) (files : FileSystem) :
    Storing → FileSystem → Prop
  | keep (hstage : s.stage = .check) (hskip : skipExisting = true)
      (hfile : files.hasFile s.target s.bytes.size = true) :
      Takes skipExisting s files (s.moveTo (.done (.ok false))) files
  | miss (hstage : s.stage = .check) : Takes skipExisting s files (s.moveTo .create) files
  | create (hstage : s.stage = .create) (temp : Location) (htemp : files.locate s.temp = .ok temp)
      (hfree : files.entryAt? temp ≠ some .directory) :
      Takes skipExisting s files (s.moveTo .write) (files.put temp (.file .empty))
  | write (hstage : s.stage = .write) (temp : Location) (htemp : files.locate s.temp = .ok temp)
      (hfree : files.entryAt? temp ≠ some .directory) :
      Takes skipExisting s files (s.moveTo .rename) (files.put temp (.file s.bytes))
  | writePart (hstage : s.stage = .write) (f : Fault) (temp : Location)
      (htemp : files.locate s.temp = .ok temp) (hfree : files.entryAt? temp ≠ some .directory) :
      Takes skipExisting s files (s.moveTo (.discard f.cause))
        (files.put temp (.file (s.bytes.extract 0 f.written)))
  | rename (hstage : s.stage = .rename) (temp place : Location) (found : ByteArray)
      (htemp : files.locate s.temp = .ok temp) (hplace : files.locate s.target = .ok place)
      (hfound : files.entryAt? temp = some (.file found))
      (hfree : files.entryAt? place ≠ some .directory) :
      Takes skipExisting s files (s.moveTo (.done (.ok true)))
        ((files.erase temp).put place (.file found))
  | fail (hstage : s.stage = .create ∨ s.stage = .write ∨ s.stage = .rename) (cause : FileError) :
      Takes skipExisting s files (s.moveTo (.discard cause)) files
  | discard (cause : FileError) (hstage : s.stage = .discard cause) (temp : Location)
      (found : ByteArray) (htemp : files.locate s.temp = .ok temp)
      (hfound : files.entryAt? temp = some (.file found)) :
      Takes skipExisting s files (s.moveTo (.done (.error cause))) (files.erase temp)
  | leave (cause : FileError) (hstage : s.stage = .discard cause)
      (hnone : ∀ temp bytes, files.locate s.temp = .ok temp →
        files.entryAt? temp ≠ some (.file bytes)) :
      Takes skipExisting s files (s.moveTo (.done (.error cause))) files
  | rest (result : Except FileError Bool) (hstage : s.stage = .done result) :
      Takes skipExisting s files s files

/-! ### Every step -/

section

variable (skipExisting : Bool) (fault : Option Fault) (s : Storing) (files : FileSystem)

theorem takes_check (hstage : s.stage = .check) :
    Takes skipExisting s files (s.moveTo (s.check skipExisting fault files)) files := by
  rw [check]
  split
  next hkeep =>
    rw [Bool.and_eq_true, Bool.and_eq_true] at hkeep
    exact .keep hstage hkeep.1.1 hkeep.2
  next => exact .miss hstage

/-- A write that fails on the way leaves a part of the bytes, or it changes nothing. -/
theorem takes_writePart (hstage : s.stage = .write) (f : Fault) :
    Takes skipExisting s files (s.moveTo (.discard f.cause)) (s.writePart files f.written) := by
  rw [writePart]
  cases hwrite : files.write s.temp (s.bytes.extract 0 f.written) with
  | error cause => exact .fail (Or.inr (Or.inl hstage)) f.cause
  | ok changed =>
    obtain ⟨temp, htemp, hfree, rfl⟩ := exists_of_write hwrite
    exact .writePart hstage f temp htemp hfree

theorem takes_discard {cause : FileError} (hstage : s.stage = .discard cause) :
    Takes skipExisting s files (s.moveTo (.done (.error cause)))
      ((files.remove s.temp).toOption.getD files) := by
  cases hremove : files.remove s.temp with
  | error other =>
    exact .leave cause hstage fun temp bytes htemp => not_file_of_remove hremove htemp bytes
  | ok changed =>
    obtain ⟨temp, found, htemp, hfound, rfl⟩ := exists_of_remove hremove
    exact .discard cause hstage temp found htemp hfound

/-- Every step of a store goes in one of these ways. -/
theorem takes_step :
    Takes skipExisting s files (s.step skipExisting fault files).1
      (s.step skipExisting fault files).2 := by
  unfold step
  cases hstage : s.stage with
  | check => exact takes_check skipExisting fault s files hstage
  | create =>
    cases fault with
    | some f => exact .fail (Or.inl hstage) f.cause
    | none =>
      cases hcreate : files.create s.temp with
      | error cause => exact .fail (Or.inl hstage) cause
      | ok changed =>
        obtain ⟨temp, htemp, hfree, rfl⟩ := exists_of_create hcreate
        exact .create hstage temp htemp hfree
  | write =>
    cases fault with
    | some f => exact takes_writePart skipExisting s files hstage f
    | none =>
      cases hwrite : files.write s.temp s.bytes with
      | error cause => exact .fail (Or.inr (Or.inl hstage)) cause
      | ok changed =>
        obtain ⟨temp, htemp, hfree, rfl⟩ := exists_of_write hwrite
        exact .write hstage temp htemp hfree
  | rename =>
    cases fault with
    | some f => exact .fail (Or.inr (Or.inr hstage)) f.cause
    | none =>
      cases hrename : files.rename s.temp s.target with
      | error cause => exact .fail (Or.inr (Or.inr hstage)) cause
      | ok changed =>
        obtain ⟨temp, place, found, htemp, hplace, hfound, hfree, rfl⟩ := exists_of_rename hrename
        exact .rename hstage temp place found htemp hplace hfound hfree
  | discard cause => exact takes_discard skipExisting s files hstage
  | done result => exact .rest result hstage

end

/-! ### What a step leaves -/

/-- A file that is put where a path leads leaves every other place as it is. -/
theorem entryAt?_put_or {files : FileSystem} {p : Path} {temp : Location} {bytes : ByteArray}
    (htemp : files.locate p = .ok temp) (hfree : files.entryAt? temp ≠ some .directory)
    (place : Location) :
    (files.put temp (.file bytes)).entryAt? place = files.entryAt? place ∨
      files.locate p = .ok place := by
  have htop : temp ≠ [] := fun hnil => hfree (by rw [hnil, entryAt?_root])
  rw [entryAt?_put _ htop]
  by_cases hplace : place = temp
  · exact Or.inr (hplace ▸ htemp)
  · exact Or.inl (if_neg hplace)

namespace Takes

variable {skipExisting : Bool} {s next : Storing} {files after : FileSystem}
  (h : Takes skipExisting s files next after)

include h

theorem eq_moveTo : next = s.moveTo next.stage := by
  cases h <;> rfl

/-- No step changes a directory. -/
theorem sameDirectories : files.SameDirectories after := by
  cases h with
  | create hstage temp htemp hfree => exact sameDirectories_put _ hfree
  | write hstage temp htemp hfree => exact sameDirectories_put _ hfree
  | writePart hstage f temp htemp hfree => exact sameDirectories_put _ hfree
  | rename hstage temp place found htemp hplace hfound hfree =>
    have herased : files.SameDirectories (files.erase temp) :=
      sameDirectories_erase (by simp [hfound])
    exact herased.trans (sameDirectories_put _ fun hdirectory =>
      hfree ((herased place).mpr hdirectory))
  | discard cause hstage temp found htemp hfound => exact sameDirectories_erase (by simp [hfound])
  | _ => exact fun _ => Iff.rfl

/-- A step leaves every place as it is, but for that of the file that is written first and, when
this file is moved, for that of the bytes, which then holds what was written. -/
theorem entryAt? (place : Location) :
    after.entryAt? place = files.entryAt? place ∨ files.locate s.temp = .ok place ∨
      s.stage = .rename ∧ files.locate s.target = .ok place ∧
        ∃ temp, files.locate s.temp = .ok temp ∧ after.entryAt? place = files.entryAt? temp := by
  cases h with
  | create hstage temp htemp hfree =>
    exact (entryAt?_put_or htemp hfree place).imp_right Or.inl
  | write hstage temp htemp hfree =>
    exact (entryAt?_put_or htemp hfree place).imp_right Or.inl
  | writePart hstage f temp htemp hfree =>
    exact (entryAt?_put_or htemp hfree place).imp_right Or.inl
  | rename hstage temp target found htemp htarget hfound hfree =>
    have htempTop : temp ≠ [] := fun hnil => by simp [hnil] at hfound
    have htargetTop : target ≠ [] := fun hnil => hfree (by rw [hnil, entryAt?_root])
    rw [entryAt?_put _ htargetTop, entryAt?_erase _ htempTop]
    by_cases hplace : place = target
    · subst hplace
      exact Or.inr (Or.inr ⟨hstage, htarget, temp, htemp, by rw [if_pos rfl, hfound]⟩)
    · rw [if_neg hplace]
      by_cases hother : place = temp
      · exact Or.inr (Or.inl (hother ▸ htemp))
      · exact Or.inl (if_neg hother)
  | discard cause hstage temp found htemp hfound =>
    have htempTop : temp ≠ [] := fun hnil => by simp [hnil] at hfound
    rw [entryAt?_erase _ htempTop]
    by_cases hother : place = temp
    · exact Or.inr (Or.inl (hother ▸ htemp))
    · exact Or.inl (if_neg hother)
  | _ => exact Or.inl rfl

end Takes

end ImageImports.Cache.Storing
