import ImageImports.Proofs.Cache.Concurrent
import ImageImports.Proofs.FileSystem.Location

/-!
# Stores that find their files

Once a store has succeeded, a file of the length of its bytes is at its path. A store that comes
later finds it there and keeps it, whatever other stores are on their way. So if all files are there
and no step is made to fail, all stores return after their first turn and nothing is written. A file
outside the cache directory is not touched by any store.

## Main definitions

* `Cache.Progress.keptAt`: stores some of which have found their files.

## Main results

* `Cache.Progress.turns_keptAt`: what turns do where all files are there.
* `Cache.Fills.hasFile`: a file of the right length is at the path of a store that has succeeded.
* `Cache.Sound.read_outside`: what is read outside a cache directory.
-/

namespace ImageImports.Cache

open FileSystem

variable {calls : List Storing} {files : FileSystem} {seen : List Nat}

/-! ### Turns where all files are there -/

theorem Storing.step_of_hasFile {s : Storing} (hstage : s.stage = .check)
    (hfile : files.hasFile s.target s.bytes.size = true) :
    s.step true none files = (s.moveTo (.done (.ok false)), files) := by
  rw [step, hstage]
  simp [check, hfile]

namespace Progress

/-- Stores of which those at some positions have found their files, and the others have not taken a
step. -/
def keptAt (calls : List Storing) (files : FileSystem) (seen : List Nat) : Progress :=
  ⟨calls.mapIdx fun i call => if i ∈ seen then call.moveTo (.done (.ok false)) else call, files⟩

theorem getElem?_keptAt (i : Nat) : (keptAt calls files seen).stores[i]? =
    calls[i]?.map fun call => if i ∈ seen then call.moveTo (.done (.ok false)) else call :=
  List.getElem?_mapIdx

theorem keptAt_nil : keptAt calls files [] = ⟨calls, files⟩ := by
  refine congrArg (Progress.mk · files) (List.ext_getElem? fun i => ?_)
  simp [List.getElem?_mapIdx]

section

variable (hstart : ∀ call ∈ calls, call.stage = .check)
  (hfiles : ∀ call ∈ calls, files.hasFile call.target call.bytes.size = true)

include hstart hfiles

theorem turn_keptAt {t : Turn} (hfault : t.fault = none) :
    (keptAt calls files seen).turn true t = keptAt calls files (seen ++ [t.position]) := by
  have hstep {call : Storing} (hmem : call ∈ calls) :
      (if t.position ∈ seen then call.moveTo (.done (.ok false)) else call).step true t.fault
        files = (call.moveTo (.done (.ok false)), files) := by
    rw [hfault]
    split
    · rfl
    · exact Storing.step_of_hasFile (hstart call hmem) (hfiles call hmem)
  have hsame : ((keptAt calls files seen).turn true t).files = files := by
    rw [turn, getElem?_keptAt]
    cases hcall : calls[t.position]? with
    | none => rfl
    | some call => exact congrArg Prod.snd (hstep (List.mem_of_getElem? hcall))
  have hstores : ((keptAt calls files seen).turn true t).stores =
      (keptAt calls files (seen ++ [t.position])).stores := by
    refine List.ext_getElem? fun i => ?_
    rw [getElem?_turn, getElem?_keptAt, getElem?_keptAt]
    by_cases hi : t.position = i
    · subst hi
      rw [if_pos rfl, Option.map_map]
      refine Option.map_congr fun call hcall => ?_
      rw [if_pos (List.mem_append_right _ (List.mem_singleton_self _))]
      exact congrArg Prod.fst (hstep (List.mem_of_getElem? hcall))
    · rw [if_neg hi]
      simp [Ne.symm hi]
  generalize (keptAt calls files seen).turn true t = p at hsame hstores
  obtain ⟨stores, after⟩ := p
  rw [show stores = _ from hstores, show after = files from hsame]
  rfl

/-- Where all files are there, the stores that had turns have kept their files. -/
theorem turns_keptAt {ts : List Turn} (hfaults : ∀ t ∈ ts, t.fault = none) :
    (keptAt calls files seen).turns true ts =
      keptAt calls files (seen ++ ts.map Turn.position) := by
  induction ts generalizing seen with
  | nil => simp [turns]
  | cons t rest ih =>
    rw [turns, List.foldl_cons, turn_keptAt hstart hfiles (hfaults t List.mem_cons_self), ← turns,
      ih fun other hmem => hfaults other (List.mem_cons_of_mem _ hmem)]
    simp

/-- Stores that all find their files have kept all of them when each had a turn. -/
theorem results?_turns_of_hasFile {ts : List Turn} (hfaults : ∀ t ∈ ts, t.fault = none)
    (hall : ∀ i < calls.length, i ∈ ts.map Turn.position) :
    (turns true ⟨calls, files⟩ ts).stores.map (fun s => s.stage.result?) =
        (List.replicate calls.length (.ok false)).map some ∧
      (turns true ⟨calls, files⟩ ts).files = files := by
  rw [← keptAt_nil, turns_keptAt hstart hfiles hfaults]
  refine ⟨List.ext_getElem? fun i => ?_, rfl⟩
  rw [List.getElem?_map, getElem?_keptAt, List.map_replicate, List.getElem?_replicate]
  by_cases hi : i < calls.length
  · rw [List.getElem?_eq_getElem hi, if_pos hi, Option.map_some, Option.map_some, List.nil_append,
      if_pos (hall i hi)]
    rfl
  · rw [List.getElem?_eq_none (Nat.le_of_not_lt hi), if_neg hi]
    rfl

end

end Progress

/-! ### What stores leave -/

variable {c : Cache} {before : FileSystem} {call : Storing}

/-- At the path of a store that has succeeded is a file of the length of its bytes. -/
theorem Fills.hasFile {skipExisting : Bool} (hdirectories : before.SameDirectories files)
    (hpath : ∀ call ∈ calls, c.IsPathOf call.target call.bytes) (hmem : call ∈ calls)
    (hdigest : ∀ other ∈ calls, Sha256.digest other.bytes = Sha256.digest call.bytes →
      other.bytes = call.bytes)
    (h : Fills skipExisting calls before files call) :
    files.hasFile call.target call.bytes.size = true := by
  cases h with
  | kept place hplace hskip hfile hsame =>
    obtain ⟨place', found, hplace', hentry, hsize⟩ := hasFile_iff.mp hfile
    obtain rfl := Except.ok.inj (hplace.symm.trans hplace')
    exact hasFile_iff.mpr
      ⟨place, found, (locate_eq_ok_iff hdirectories).mp hplace, hsame.trans hentry, hsize⟩
  | stored place hplace other hother hotherPlace hstored =>
    have hsame := (hpath other hother).digest_eq (hpath call hmem) hotherPlace hplace
    rw [hdigest other hother hsame] at hstored
    exact hasFile_iff.mpr ⟨place, _, (locate_eq_ok_iff hdirectories).mp hplace, hstored, rfl⟩

/-- The places of a cached file and of a file that is still being written are in the cache
directory. -/
theorem prefix_of_locate_join {name : List UInt8} (hname : Path.IsFileName name) {place : Location}
    (h : files.locate (c.directory.join ⟨name⟩) = .ok place) :
    c.directory.location <+: place := by
  obtain ⟨rfl, -⟩ := eq_location_of_locate h
  rw [Path.location_join_of_isFileName _ hname]
  exact List.prefix_append _ _

/-- What is read outside a cache directory is what was read before the stores of the cache. -/
theorem Sound.read_outside {skipExisting : Bool} {p : Progress}
    (h : Sound skipExisting calls before p)
    (hpath : ∀ call ∈ calls, c.IsPathOf call.target call.bytes)
    (htemp : ∀ call ∈ calls, ∃ draw, call.temp = c.tempPath draw) {path : Path}
    (houtside : ¬ c.directory.location <+: path.location) {bytes : ByteArray}
    (hread : before.read path = .ok bytes) : p.files.read path = .ok bytes := by
  obtain ⟨place, hplace, hentry⟩ := read_eq_ok_iff.mp hread
  obtain rfl := (eq_location_of_locate hplace).1
  have hfree : ∀ call ∈ calls, before.locate call.temp ≠ .ok path.location := by
    intro call hmem hlocate
    obtain ⟨draw, hdraw⟩ := htemp call hmem
    rw [hdraw] at hlocate
    exact houtside (prefix_of_locate_join (isFileName_tempName draw) hlocate)
  refine read_eq_ok_iff.mpr ⟨_, (locate_eq_ok_iff h.directories).mp hplace, ?_⟩
  cases h.entry _ hfree with
  | same hsame => rw [hsame, hentry]
  | stored call hmem hlocate hstored =>
    obtain ⟨extension, hslash, htarget⟩ := hpath call hmem
    rw [htarget] at hlocate
    exact absurd (prefix_of_locate_join (c.isFileName_fileName call.bytes hslash) hlocate) houtside

end ImageImports.Cache
