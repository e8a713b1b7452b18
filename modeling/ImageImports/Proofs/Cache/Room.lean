import ImageImports.Proofs.Cache.Concurrent
import ImageImports.Proofs.Cache.OneByOne
import ImageImports.Proofs.FileSystem.Admitted
import Mathlib.Data.String.Basic

/-!
# What a cache has room for

The name of a cached file is a content address and an ending of any length, and it may be longer
than a directory admits. Then the bytes cannot be moved to their path, and the store fails. In a
cache directory that is there nothing else keeps a store from succeeding that is not made to fail,
as long as no directory is where it writes. It does not matter which other stores are on their way.

## Main definitions

* `Cache.HasRoom`: the file of a byte string has a name that the cache directory admits.
* `Cache.Crowds`: the causes for which a store fails where there is no room.
* `Cache.Storing.FailsBy`: the causes for which a store may find no place to write to.

## Main results

* `Cache.hasRoom_iff`: the names that a cache directory admits.
* `Cache.Storing.FailsBy.step`, `Cache.Storing.FailsBy.turns`: one step and all turns of stores that
  fail for some causes only.
* `Cache.failsBy_crowds`: a cache directory that is there has room or has not.
* `Cache.store_eq_ok_iff`, `Cache.crowds_of_store`: the result of a store.
-/

namespace ImageImports

open FileSystem

namespace FileSystem

variable {files : FileSystem} {p source target : Path} {bytes found : ByteArray}
  {cause : FileError}

/-- A file is created unless its path leads nowhere or to a directory. -/
theorem cause_of_create (h : files.create p = .error cause)
    (hfree : ∀ place, files.locate p = .ok place → files.entryAt? place ≠ some .directory) :
    files.locate p = .error cause := by
  rw [create] at h
  cases hplace : files.locate p with
  | error other =>
    rw [hplace] at h
    rw [Except.error.inj h]
  | ok place =>
    rw [hplace] at h
    dsimp only at h
    split at h
    next hdirectory => exact absurd hdirectory (hfree place hplace)
    next => cases h

theorem exists_write_of_read (h : files.read p = .ok found) : ∃ place,
    files.locate p = .ok place ∧ files.entryAt? place = some (.file found) ∧
      files.write p bytes = .ok (files.put place (.file bytes)) := by
  obtain ⟨place, hplace, hentry⟩ := read_eq_ok_iff.mp h
  refine ⟨place, hplace, hentry, ?_⟩
  rw [write, hplace]
  dsimp only
  rw [hentry]

/-- A file that is there can be moved unless the other path leads nowhere or to a directory. -/
theorem cause_of_rename (hread : files.read source = .ok found)
    (h : files.rename source target = .error cause)
    (hfree : ∀ place, files.locate target = .ok place → files.entryAt? place ≠ some .directory) :
    files.locateFile target = .error cause := by
  obtain ⟨old, hold, hentry⟩ := read_eq_ok_iff.mp hread
  rw [rename, hold] at h
  cases hplace : files.locateFile target with
  | error other =>
    rw [hplace] at h
    rw [Except.error.inj h]
  | ok place =>
    rw [hplace] at h
    dsimp only at h
    rw [hentry] at h
    split at h
    next heq => cases heq
    next heq => cases heq
    next hdirectory => exact absurd hdirectory (hfree place (locate_of_locateFile hplace))
    next => cases h

end FileSystem

namespace Cache

/-! ### Names that are admitted -/

theorem utf8Len_eq_length {chars : List Char} (h : ∀ c ∈ chars, c.utf8Size = 1) :
    String.utf8Len chars = chars.length := by
  induction chars with
  | nil => rfl
  | cons c rest ih =>
    obtain ⟨hc, hrest⟩ := List.forall_mem_cons.mp h
    rw [String.utf8Len_cons, ih hrest, hc, List.length_cons]

theorem length_encode (text : String) : (Utf8.encode text).length = text.utf8ByteSize := by
  rw [← String.utf8Len_toList, Utf8.encode, Utf8.encodeChars]
  induction text.toList with
  | nil => rfl
  | cons c rest ih =>
    rw [List.flatMap_cons, List.length_append, ih, String.utf8Len_cons,
      String.length_utf8EncodeChar, Nat.add_comm]

variable (c : Cache) (bytes : ByteArray) (extension : String)

theorem utf8ByteSize_fileName : (c.fileName bytes extension).utf8ByteSize =
    c.encoding.length + extension.utf8ByteSize := by
  have hhash : (contentHash bytes c.encoding).utf8ByteSize = c.encoding.length := by
    rw [← String.utf8Len_toList, utf8Len_eq_length, contentHash, HashEncoding.length_spell]
    exact HashEncoding.forall_mem_spell (P := fun _ c => c.utf8Size = 1) (by decide) (by decide) _ _
  rw [fileName, String.utf8ByteSize_append, hhash]

theorem utf8ByteSize_tempName (draw : Uuid) : (tempName draw).utf8ByteSize = 37 := by
  have hdigits : String.utf8Len (Hex.encodeChars draw.bytes.toList) = 32 := by
    rw [utf8Len_eq_length (Hex.forall_mem_encodeChars (by decide) _), Hex.length_encodeChars,
      Vector.length_toList]
  rw [← String.utf8Len_toList, toList_tempName, String.utf8Len_cons, String.utf8Len_append, hdigits]
  rfl

theorem nul_mem_encode_iff (text : String) : 0 ∈ Utf8.encode text ↔ '\x00' ∈ text.toList :=
  Utf8.ofNat_mem_encodeChars_iff (c := '\x00') (by decide)

theorem nul_notMem_tempName (draw : Uuid) : 0 ∉ Utf8.encode (tempName draw) := by
  rw [nul_mem_encode_iff, toList_tempName, List.mem_cons, List.mem_append]
  rintro (hdot | hdigit | hlast)
  · exact absurd hdot (by decide)
  · exact Hex.forall_mem_encodeChars (P := fun c => c ≠ '\x00') (by decide) _ _ hdigit rfl
  · exact absurd hlast (by decide)

/-- The cache directory admits the name of the file of a byte string: the content address leaves
room for the ending, the path is not too long, and the ending has no zero character. -/
structure HasRoom : Prop where
  noNul : '\x00' ∉ extension.toList
  size : c.encoding.length + extension.utf8ByteSize ≤ nameLimit
  pathSize : (c.pathFor bytes extension).bytes.length ≤ pathLimit

theorem nul_mem_fileName_iff :
    0 ∈ Utf8.encode (c.fileName bytes extension) ↔ '\x00' ∈ extension.toList := by
  have hspelled : ∀ char ∈ (contentHash bytes c.encoding).toList, char ≠ '\x00' :=
    HashEncoding.forall_mem_spell (P := fun _ c => c ≠ '\x00') (by decide) (by decide) _ _
  rw [nul_mem_encode_iff, fileName, String.toList_append, List.mem_append]
  exact or_iff_right fun hmem => hspelled _ hmem rfl

theorem hasRoom_iff :
    c.HasRoom bytes extension ↔ Admits c.directory (Utf8.encode (c.fileName bytes extension)) := by
  constructor
  · intro h
    refine ⟨mt (c.nul_mem_fileName_iff bytes extension).mp h.noNul, ?_, h.pathSize⟩
    rw [length_encode, utf8ByteSize_fileName]
    exact h.size
  · intro h
    refine ⟨mt (c.nul_mem_fileName_iff bytes extension).mpr h.noNul, ?_, h.pathSize⟩
    rw [← utf8ByteSize_fileName, ← length_encode]
    exact h.size

/-- Where there is room for a file, a file may be written before it is moved: its name is
shorter. -/
theorem HasRoom.admits_tempName {c : Cache} {bytes : ByteArray} {extension : String}
    (h : c.HasRoom bytes extension) (hslash : '/' ∉ extension.toList) (draw : Uuid) :
    Admits c.directory (Utf8.encode (tempName draw)) := by
  have hname := c.isFileName_fileName bytes hslash
  have hsmall : (Utf8.encode (tempName draw)).length ≤
      (Utf8.encode (c.fileName bytes extension)).length := by
    rw [length_encode, utf8ByteSize_tempName, length_encode, utf8ByteSize_fileName]
    cases c.encoding <;> exact Nat.le_add_right_of_le (by decide)
  have hroom := (c.hasRoom_iff bytes extension).mp h
  refine ⟨nul_notMem_tempName draw, Nat.le_trans hsmall hroom.size,
    Nat.le_trans ?_ hroom.pathSize⟩
  rw [Path.bytes_join (Path.isAbsolute_of_isFileName (isFileName_tempName draw)),
    Path.bytes_join (Path.isAbsolute_of_isFileName hname), List.length_append, List.length_append]
  exact Nat.add_le_add_left hsmall _

end Cache

/-! ### Why stores fail -/

namespace Cache

/-- Where a store writes it finds its places, or it does not for one of some causes, as long as the
directories stay the same. Neither place is that of a directory. -/
structure Storing.FailsBy (s : Storing) (before : FileSystem) (causes : FileError → Prop) :
    Prop where
  temp : ∀ files cause, before.SameDirectories files → files.locate s.temp = .error cause →
    causes cause
  target : ∀ files cause, before.SameDirectories files → files.locateFile s.target = .error cause →
    causes cause
  tempFree : ∀ place, before.locate s.temp = .ok place → before.entryAt? place ≠ some .directory
  targetFree : ∀ place, before.locate s.target = .ok place → before.entryAt? place ≠ some .directory

/-- What a stage tells of a store that is not made to fail: a file that it has created is there, and
it fails for one of some causes. -/
def Stage.FailsBy (causes : FileError → Prop) (files : FileSystem) (temp : Path) : Stage → Prop
  | .check | .create | .done (.ok _) => True
  | .write | .rename => ∃ found, files.read temp = .ok found
  | .discard cause | .done (.error cause) => causes cause

variable {causes : FileError → Prop} {before files : FileSystem} {s call other : Storing}
  {stage : Stage} {calls : List Storing} {p : Progress} {skipExisting : Bool}

theorem read_put {path : Path} {place : Location} {bytes : ByteArray}
    (hplace : files.locate path = .ok place) (hfree : files.entryAt? place ≠ some .directory) :
    (files.put place (.file bytes)).read path = .ok bytes := by
  have htop : place ≠ [] := fun hnil => hfree (by rw [hnil, entryAt?_root])
  refine read_eq_ok_iff.mpr ⟨place, (locate_eq_ok_iff (sameDirectories_put _ hfree)).mp hplace, ?_⟩
  rw [entryAt?_put _ htop, if_pos rfl]

theorem Storing.FailsBy.moveTo (h : s.FailsBy before causes) (stage : Stage) :
    (s.moveTo stage).FailsBy before causes := ⟨h.temp, h.target, h.tempFree, h.targetFree⟩

variable (skipExisting) in
/-- A step that is not made to fail does so for one of the causes only. -/
theorem Storing.FailsBy.step (h : s.FailsBy before causes)
    (hdirectories : before.SameDirectories files) (hstage : s.stage.FailsBy causes files s.temp) :
    (s.step skipExisting none files).1.stage.FailsBy causes (s.step skipExisting none files).2
      s.temp := by
  obtain ⟨target, bytes, temp, stage⟩ := s
  have hfree {path : Path} {place : Location}
      (hbefore : ∀ place, before.locate path = .ok place →
        before.entryAt? place ≠ some .directory)
      (hplace : files.locate path = .ok place) : files.entryAt? place ≠ some .directory :=
    fun hdirectory => hbefore place ((locate_eq_ok_iff hdirectories).mpr hplace)
      ((hdirectories place).mpr hdirectory)
  cases stage with
  | check =>
    simp only [Storing.step, Storing.moveTo, Storing.check]
    split <;> trivial
  | create =>
    simp only [Storing.step]
    cases hcreate : files.create temp with
    | error cause =>
      exact h.temp files cause hdirectories
        (cause_of_create hcreate fun _ hplace => hfree h.tempFree hplace)
    | ok changed =>
      obtain ⟨place, hplace, hplaceFree, rfl⟩ := exists_of_create hcreate
      exact ⟨_, read_put hplace hplaceFree⟩
  | write =>
    obtain ⟨found, hread⟩ := hstage
    obtain ⟨place, hplace, hentry, hwrite⟩ := exists_write_of_read hread
    simp only [Storing.step]
    rw [hwrite]
    exact ⟨_, read_put hplace (by simp [hentry])⟩
  | rename =>
    obtain ⟨found, hread⟩ := hstage
    simp only [Storing.step]
    cases hrename : files.rename temp target with
    | error cause =>
      exact h.target files cause hdirectories
        (cause_of_rename hread hrename fun _ hplace => hfree h.targetFree hplace)
    | ok changed => trivial
  | discard cause => exact hstage
  | done result => exact hstage

/-- All steps that are left, with nothing between them, fail for one of the causes only. -/
theorem Storing.FailsBy.cause_of_finish (h : s.FailsBy before causes)
    (hdirectories : before.SameDirectories files) (hstage : s.stage.FailsBy causes files s.temp)
    {cause : FileError} (hfails : (s.finish skipExisting files).2 = .error cause) :
    causes cause := by
  induction hrank : s.stage.rank using Nat.strongRecOn generalizing s files with
  | ind rank ih =>
    cases hresult : s.stage.result? with
    | some result =>
      rw [Storing.finish_of_result skipExisting hresult] at hfails
      obtain rfl : result = .error cause := hfails
      rw [Stage.eq_done_of_result? hresult] at hstage
      exact hstage
    | none =>
      have htakes := Storing.takes_step skipExisting none s files
      have hlt := Storing.rank_step_lt skipExisting none s files (Stage.rank_pos hresult)
      have hnext := h.step skipExisting hdirectories hstage
      rw [Storing.finish_step skipExisting hresult] at hfails
      generalize s.step skipExisting none files = result at htakes hlt hnext hfails
      obtain ⟨next, after⟩ := result
      have hmoved : next.FailsBy before causes := by
        rw [show next = s.moveTo next.stage from htakes.eq_moveTo]
        exact h.moveTo _
      have htemp : next.temp = s.temp := by
        rw [show next = s.moveTo next.stage from htakes.eq_moveTo]
        rfl
      exact ih _ (hrank ▸ hlt) hmoved (hdirectories.trans htakes.sameDirectories)
        (by rw [htemp]; exact hnext) hfails rfl

/-- What its stage tells of a store that fails for one of some causes. -/
def Progress.FailsBy (p : Progress) (causes : FileError → Prop) (i : Nat) (call : Storing) : Prop :=
  ∃ stage, p.stores[i]? = some (call.moveTo stage) ∧ stage.FailsBy causes p.files call.temp

/-- What a store has written first is there after the step of another one. -/
theorem read_of_takes (hdirectories : before.SameDirectories files) (hapart : Apart before calls)
    {i j : Nat} (hi : calls[i]? = some call) (hj : calls[j]? = some other) (hne : i ≠ j)
    (hother : Obeys skipExisting calls before files other stage) {next : Storing}
    {after : FileSystem} (htakes : (other.moveTo stage).Takes skipExisting files next after)
    {found : ByteArray} (hread : files.read call.temp = .ok found) :
    after.read call.temp = .ok found := by
  obtain ⟨place, hplace, hentry⟩ := read_eq_ok_iff.mp hread
  have hbefore := (locate_eq_ok_iff hdirectories).mpr hplace
  refine read_eq_ok_iff.mpr ⟨place, (locate_eq_ok_iff htakes.sameDirectories).mp hplace, ?_⟩
  rcases hother.entryAt?_of_takes hdirectories htakes place with hsame | htemp | ⟨htarget, -⟩
  · rw [hsame, hentry]
  · exact absurd (hapart.temp i j call other place hi hj hbefore htemp) hne
  · exact absurd hbefore (hapart.target other (List.mem_of_getElem? hj) call
      (List.mem_of_getElem? hi) place htarget)

/-- A turn that is not made to fail makes a store fail for one of the causes only. -/
theorem Storing.FailsBy.turn (h : call.FailsBy before causes) (hapart : Apart before calls)
    (hsound : Sound skipExisting calls before p) {i : Nat} (hcall : calls[i]? = some call)
    {t : Turn} (hfault : t.fault = none) (hp : p.FailsBy causes i call) :
    (p.turn skipExisting t).FailsBy causes i call := by
  obtain ⟨stage, hstore, hstage⟩ := hp
  rw [Progress.FailsBy, Progress.getElem?_turn]
  by_cases hi : t.position = i
  · have hnext := (h.moveTo stage).step skipExisting hsound.directories hstage
    have htakes := Storing.takes_step skipExisting none (call.moveTo stage) p.files
    rw [if_pos hi, hstore, Option.map_some, hfault, Progress.turn, hi, hstore, hfault]
    refine ⟨_, congrArg some htakes.eq_moveTo, hnext⟩
  · rw [if_neg hi, Progress.turn]
    cases hfound : p.stores[t.position]? with
    | none => exact ⟨stage, hstore, hstage⟩
    | some found =>
      have hlt : t.position < calls.length := by
        rw [← hsound.length]
        exact (List.getElem?_eq_some_iff.mp hfound).1
      have hother : calls[t.position]? = some calls[t.position] := List.getElem?_eq_getElem hlt
      obtain ⟨otherStage, hotherStore, hobeys⟩ := hsound.store t.position _ hother
      obtain rfl := Option.some.inj (hfound.symm.trans hotherStore)
      refine ⟨stage, hstore, ?_⟩
      have htakes := Storing.takes_step skipExisting t.fault
        (calls[t.position].moveTo otherStage) p.files
      have hkeep : ∀ found, p.files.read call.temp = .ok found →
          ((calls[t.position].moveTo otherStage).step skipExisting t.fault p.files).2.read
            call.temp = .ok found := fun found =>
        read_of_takes hsound.directories hapart hcall hother (Ne.symm hi) hobeys htakes
      cases stage with
      | write => exact hstage.imp hkeep
      | rename => exact hstage.imp hkeep
      | done result => cases result <;> exact hstage
      | _ => exact hstage

/-- Turns that are not made to fail make a store fail for one of the causes only. -/
theorem Storing.FailsBy.turns (h : call.FailsBy before causes) (hapart : Apart before calls)
    (hsound : Sound skipExisting calls before p) {i : Nat} (hcall : calls[i]? = some call)
    {ts : List Turn} (hfaults : ∀ t ∈ ts, t.fault = none) (hp : p.FailsBy causes i call) :
    (p.turns skipExisting ts).FailsBy causes i call := by
  induction ts generalizing p with
  | nil => exact hp
  | cons t rest ih =>
    exact ih (hsound.turn hapart t) (fun other hmem => hfaults other (List.mem_cons_of_mem _ hmem))
      (h.turn hapart hsound hcall (hfaults t List.mem_cons_self) hp)

theorem Progress.FailsBy.cause {i : Nat} (h : p.FailsBy causes i call) {cause : FileError}
    (hresult : p.resultAt? i = some (.error cause)) : causes cause := by
  obtain ⟨stage, hstore, hstage⟩ := h
  rw [Progress.resultAt?, hstore, Option.bind_some] at hresult
  rw [show stage = .done (.error cause) from Stage.eq_done_of_result? hresult] at hstage
  exact hstage

/-! ### Where there is no room -/

variable (c : Cache)

/-- The causes for which a store in a cache fails where there is no room: the name or the path is
too long, or there is a zero character in the ending. -/
def Crowds (bytes : ByteArray) (extension : String) (cause : FileError) : Prop :=
  ¬ c.HasRoom bytes extension ∧
    (cause = .nameTooLong ∨ cause = .nulInName ∧ '\x00' ∈ extension.toList)

variable {c} {bytes : ByteArray} {extension : String} {draw : Uuid} {directory : Location}

/-- A store that succeeds fills its place: alone, it takes turns as well. -/
theorem exists_fills_of_store (hslash : '/' ∉ extension.toList) {written : Bool}
    (h : (c.store (c.pathFor bytes extension) bytes draw before).2 = .ok written) :
    ∃ files, Fills c.skipExisting [c.storing (c.pathFor bytes extension) bytes draw] before files
      (c.storing (c.pathFor bytes extension) bytes draw) := by
  have hstart : Sound c.skipExisting [c.storing (c.pathFor bytes extension) bytes draw] before
      ⟨[c.storing (c.pathFor bytes extension) bytes draw], before⟩ :=
    sound_start fun call hmem => by
      rw [List.mem_singleton.mp hmem]
      rfl
  have hapart : Apart before [c.storing (c.pathFor bytes extension) bytes draw] := by
    refine @apart_of_draws c _ before [draw] (fun call hmem => ?_) rfl (by simp)
    rw [List.mem_singleton.mp hmem]
    exact ⟨extension, hslash, rfl⟩
  have hfirst : [c.storing (c.pathFor bytes extension) bytes draw][0]? =
      some (c.storing (c.pathFor bytes extension) bytes draw) := rfl
  obtain ⟨last, hlast, hturns⟩ := Progress.turns_replicate c.skipExisting
    (p := ⟨[c.storing (c.pathFor bytes extension) bytes draw], before⟩) hfirst (Nat.le_refl 5)
  have hresult : (Progress.turns c.skipExisting
      ⟨[c.storing (c.pathFor bytes extension) bytes draw], before⟩
      (List.replicate 5 ⟨0, none⟩)).resultAt? 0 = some (.ok written) := by
    rw [store] at h
    dsimp only at h
    cases hfinish : ((c.storing (c.pathFor bytes extension) bytes draw).finish c.skipExisting
        before).2 with
    | error cause =>
      rw [hfinish] at h
      cases h
    | ok value =>
      rw [hfinish] at h hlast
      rw [hturns, ← Except.ok.inj h]
      change last.stage.result? = _
      rw [hlast]
      rfl
  exact ⟨_, (hstart.turns hapart _).fills hfirst hresult⟩

section

variable (hdirectory : before.locate c.directory = .ok directory)
  (hentry : before.entryAt? directory = some .directory) (hslash : '/' ∉ extension.toList)

include hdirectory hentry hslash

theorem hasRoom_of_locate {place : Location}
    (h : before.locate (c.pathFor bytes extension) = .ok place) : c.HasRoom bytes extension :=
  (c.hasRoom_iff bytes extension).mpr ((locate_join_eq_ok_iff hdirectory hentry
    (c.isFileName_fileName bytes hslash)).mp h).1

theorem hasRoom_of_fills {skipExisting : Bool} {calls : List Storing}
    (h : Fills skipExisting calls before files (c.storing (c.pathFor bytes extension) bytes draw)) :
    c.HasRoom bytes extension := by
  cases h with
  | kept place hplace => exact hasRoom_of_locate hdirectory hentry hslash hplace
  | stored place hplace => exact hasRoom_of_locate hdirectory hentry hslash hplace

/-- In a cache directory that is there a store fails for want of room only. -/
theorem failsBy_crowds
    (htemp : ∀ place, before.locate (c.tempPath draw) = .ok place →
      before.entryAt? place ≠ some .directory)
    (htarget : ∀ place, before.locate (c.pathFor bytes extension) = .ok place →
      before.entryAt? place ≠ some .directory) :
    (c.storing (c.pathFor bytes extension) bytes draw).FailsBy before
      (c.Crowds bytes extension) where
  temp := by
    intro files cause hsame hplace
    obtain ⟨hlong, hcause⟩ := cause_of_locate_join ((locate_eq_ok_iff hsame).mp hdirectory)
      ((hsame directory).mp hentry) (isFileName_tempName draw) hplace
    have hroom : ¬ c.HasRoom bytes extension := fun h => hlong (h.admits_tempName hslash draw)
    refine ⟨hroom, hcause.imp_right fun ⟨hnul, hmem⟩ => ⟨hnul, ?_⟩⟩
    exact absurd hmem (nul_notMem_tempName draw)
  target := by
    intro files cause hsame hplace
    have hname := c.isFileName_fileName bytes hslash
    have hjoin : files.locateFile (c.directory.join ⟨Utf8.encode (c.fileName bytes extension)⟩) =
      .error cause := hplace
    rw [locateFile_join files c.directory hname] at hjoin
    obtain ⟨hlong, hcause⟩ := cause_of_locate_join ((locate_eq_ok_iff hsame).mp hdirectory)
      ((hsame directory).mp hentry) hname hjoin
    rw [← hasRoom_iff] at hlong
    rw [nul_mem_fileName_iff] at hcause
    exact ⟨hlong, hcause⟩
  tempFree := htemp
  targetFree := htarget

end

section

variable (hdirectory : before.locate c.directory = .ok directory)
  (hentry : before.entryAt? directory = some .directory) (hslash : '/' ∉ extension.toList)
  (htemp : ∀ place, before.locate (c.tempPath draw) = .ok place →
    before.entryAt? place ≠ some .directory)
  (htarget : ∀ place, before.locate (c.pathFor bytes extension) = .ok place →
    before.entryAt? place ≠ some .directory)

include hdirectory hentry hslash htemp htarget

/-- A store that fails does so for want of room. -/
theorem crowds_of_store {e : TransformError}
    (h : (c.store (c.pathFor bytes extension) bytes draw before).2 = .error e) :
    ∃ cause, e = .writeFailed (c.pathFor bytes extension) cause ∧
      c.Crowds bytes extension cause := by
  rw [store] at h
  dsimp only at h
  cases hfinish : ((c.storing (c.pathFor bytes extension) bytes draw).finish c.skipExisting
      before).2 with
  | ok written =>
    rw [hfinish] at h
    cases h
  | error cause =>
    rw [hfinish] at h
    exact ⟨cause, (Except.error.inj h).symm,
      (failsBy_crowds hdirectory hentry hslash htemp htarget).cause_of_finish (fun _ => Iff.rfl)
        trivial hfinish⟩

/-- A store succeeds just if there is room. -/
theorem store_eq_ok_iff :
    (∃ written, (c.store (c.pathFor bytes extension) bytes draw before).2 = .ok written) ↔
      c.HasRoom bytes extension := by
  constructor
  · rintro ⟨written, hstore⟩
    obtain ⟨files, hfills⟩ := exists_fills_of_store hslash hstore
    exact hasRoom_of_fills hdirectory hentry hslash hfills
  · intro hroom
    cases hstore : (c.store (c.pathFor bytes extension) bytes draw before).2 with
    | ok written => exact ⟨written, rfl⟩
    | error e =>
      obtain ⟨cause, -, hfull, -⟩ :=
        crowds_of_store hdirectory hentry hslash htemp htarget hstore
      exact absurd hroom hfull

end

end Cache

end ImageImports
