import ImageImports.Proofs.Cache.Kept
import ImageImports.Proofs.Transform.Turns

/-!
# Stores of records

The stores of the records of a run take turns. They are at the paths of their bytes, and each of
them writes first to a file of its own, so what is kept by every turn holds of them. When all of
them have succeeded, every record has its bytes in the cache.

## Main definitions

* `Transform.FreshTemps`: files that are written first have names of their own.

## Main results

* `Transform.sound_progressOf`: what holds of the stores of records after their turns.
* `Transform.read_of_results`, `Transform.hasFile_of_results`: every store has its bytes in the
  cache, or a file of their length.
* `Transform.entryAt?_temp_of_results`: nothing is left where the stores wrote first.
* `Transform.length_stores_le`: how many files a run stores.
-/

namespace ImageImports.Transform

open FileSystem

/-- The first identifiers for files that are written differ from each other, and none of these files
is there. -/
structure FreshTemps (cache : Cache) (files : FileSystem) (temps : Nat → Uuid) (count : Nat) :
    Prop where
  distinct : ((List.range count).map temps).Nodup
  unused : ∀ i < count, ∀ place, files.locate (cache.tempPath (temps i)) = .ok place →
    files.entryAt? place = none

variable {cache : Cache} {temps : Nat → Uuid} {records : List Record} {before : FileSystem}

theorem getElem?_storingsOf (cache : Cache) (temps : Nat → Uuid) (records : List Record) (i : Nat) :
    (storingsOf cache temps records)[i]? =
      records[i]?.map fun record => cache.storing record.path record.bytes (temps i) :=
  List.getElem?_mapIdx

theorem length_storingsOf (cache : Cache) (temps : Nat → Uuid) (records : List Record) :
    (storingsOf cache temps records).length = records.length :=
  List.length_mapIdx

/-- Every store is that of a record. -/
theorem exists_of_mem_storingsOf {call : Cache.Storing}
    (h : call ∈ storingsOf cache temps records) :
    ∃ i record, records[i]? = some record ∧
      call = cache.storing record.path record.bytes (temps i) := by
  obtain ⟨i, hi⟩ := List.mem_iff_getElem?.mp h
  rw [getElem?_storingsOf] at hi
  obtain ⟨record, hrecord, hcall⟩ := Option.map_eq_some_iff.mp hi
  exact ⟨i, record, hrecord, hcall.symm⟩

theorem exists_storing_of_mem (cache : Cache) (temps : Nat → Uuid) {record : Record}
    (h : record ∈ records) :
    ∃ i, cache.storing record.path record.bytes (temps i) ∈ storingsOf cache temps records := by
  obtain ⟨i, hrecord⟩ := List.mem_iff_getElem?.mp h
  refine ⟨i, List.mem_of_getElem? (i := i) ?_⟩
  rw [getElem?_storingsOf, hrecord, Option.map_some]

theorem isPathOf_of_mem_storingsOf
    (hpaths : ∀ record ∈ records, cache.IsPathOf record.path record.bytes) :
    ∀ call ∈ storingsOf cache temps records, cache.IsPathOf call.target call.bytes := by
  intro call hcall
  obtain ⟨i, record, hrecord, rfl⟩ := exists_of_mem_storingsOf hcall
  exact hpaths record (List.mem_of_getElem? hrecord)

theorem map_temp_storingsOf (cache : Cache) (temps : Nat → Uuid) (records : List Record) :
    (storingsOf cache temps records).map Cache.Storing.temp =
      ((List.range records.length).map temps).map cache.tempPath := by
  refine List.ext_getElem? fun i => ?_
  rw [List.getElem?_map, getElem?_storingsOf, List.getElem?_map, List.getElem?_map]
  by_cases hi : i < records.length
  · rw [List.getElem?_eq_getElem hi, List.getElem?_range hi]
    rfl
  · rw [List.getElem?_eq_none (Nat.le_of_not_lt hi), List.getElem?_eq_none (by simpa using hi)]
    rfl

theorem apart_storingsOf (hpaths : ∀ record ∈ records, cache.IsPathOf record.path record.bytes)
    (hdistinct : ((List.range records.length).map temps).Nodup) :
    Cache.Apart before (storingsOf cache temps records) :=
  Cache.apart_of_draws (isPathOf_of_mem_storingsOf hpaths) (map_temp_storingsOf cache temps records)
    hdistinct

/-- What holds of the stores of records after their turns. -/
theorem sound_progressOf (hpaths : ∀ record ∈ records, cache.IsPathOf record.path record.bytes)
    (hdistinct : ((List.range records.length).map temps).Nodup) (turns : List Cache.Turn) :
    Cache.Sound cache.skipExisting (storingsOf cache temps records) before
      (progressOf cache before temps turns records) := by
  refine (Cache.sound_start fun call hcall => ?_).turns (apart_storingsOf hpaths hdistinct) turns
  obtain ⟨i, record, -, rfl⟩ := exists_of_mem_storingsOf hcall
  rfl

theorem resultAt?_of_results? {p : Cache.Progress} {results : List (Except FileError Bool)}
    (h : p.results? = some results) (i : Nat) : p.resultAt? i = results[i]? := by
  have hmap := congrArg (fun all => all[i]?) (mapM_eq_some_iff.mp h)
  rw [List.getElem?_map, List.getElem?_map] at hmap
  rw [Cache.Progress.resultAt?]
  cases hs : p.stores[i]? with
  | none =>
    rw [hs] at hmap
    exact (Option.map_eq_none_iff.mp hmap.symm).symm
  | some s =>
    rw [hs, Option.map_some] at hmap
    obtain ⟨result, hresult, hsome⟩ := Option.map_eq_some_iff.mp hmap.symm
    rw [hresult, Option.bind_some, hsome]

theorem length_results {turns : List Cache.Turn} {results : List (Except FileError Bool)}
    (h : (progressOf cache before temps turns records).results? = some results) :
    results.length = records.length := by
  have hmap := congrArg List.length (mapM_eq_some_iff.mp h)
  rw [List.length_map, List.length_map, progressOf, Cache.Progress.length_turns,
    length_storingsOf] at hmap
  exact hmap.symm

/-- The result of a record is that of its store. -/
theorem getElem?_storedOf (records : List Record) (results : List (Except FileError Bool))
    (i : Nat) : (storedOf records results)[i]? =
      records[i]?.bind fun record =>
        results[i]?.map fun result => result.mapError (.writeFailed record.path) := by
  rw [storedOf, List.getElem?_zipWith]
  cases records[i]? with
  | none => rfl
  | some record => cases results[i]? <;> rfl

theorem length_storedOf {turns : List Cache.Turn} {results : List (Except FileError Bool)}
    (h : (progressOf cache before temps turns records).results? = some results) :
    (storedOf records results).length = records.length := by
  rw [storedOf, List.length_zipWith, length_results h, Nat.min_self]

/-- A record that is told to be stored has a store that has succeeded. -/
theorem resultAt?_of_storedOf {p : Cache.Progress} {results : List (Except FileError Bool)}
    (h : p.results? = some results) {i : Nat} {record : Record} {written : Bool}
    (hrecord : records[i]? = some record)
    (hstored : (storedOf records results)[i]? = some (.ok written)) :
    p.resultAt? i = some (.ok written) := by
  rw [getElem?_storedOf, hrecord, Option.bind_some] at hstored
  obtain ⟨result, hresult, hwritten⟩ := Option.map_eq_some_iff.mp hstored
  rw [resultAt?_of_results? h, hresult]
  cases result with
  | error cause => cases hwritten
  | ok value => rw [Except.ok.inj hwritten]

/-- When all stores have succeeded, so has the store of every record. -/
theorem exists_resultAt?_of_written {turns : List Cache.Turn}
    {results : List (Except FileError Bool)}
    (h : (progressOf cache before temps turns records).results? = some results)
    {written : List Bool} (hwritten : storedOf records results = written.map .ok) {i : Nat}
    {record : Record} (hrecord : records[i]? = some record) :
    ∃ value, (progressOf cache before temps turns records).resultAt? i = some (.ok value) := by
  have hlt : i < written.length := by
    have hlength := congrArg List.length hwritten
    rw [length_storedOf h, List.length_map] at hlength
    rw [← hlength]
    exact (List.getElem?_eq_some_iff.mp hrecord).1
  refine ⟨written[i], resultAt?_of_storedOf h hrecord ?_⟩
  rw [hwritten, List.getElem?_map, List.getElem?_eq_getElem hlt, Option.map_some]

/-- When all stores have returned, nothing is left where they wrote first, nor was there anything
before. -/
theorem entryAt?_temp_of_results
    (hpaths : ∀ record ∈ records, cache.IsPathOf record.path record.bytes)
    {turns : List Cache.Turn} {results : List (Except FileError Bool)}
    (hresults : (progressOf cache before temps turns records).results? = some results)
    (hfresh : FreshTemps cache before temps records.length) {i : Nat} (hi : i < records.length)
    {place : Location}
    (hplace : (progressOf cache before temps turns records).files.locate
      (cache.tempPath (temps i)) = .ok place) :
    (progressOf cache before temps turns records).files.entryAt? place = none ∧
      before.entryAt? place = none := by
  have hsound : Cache.Sound cache.skipExisting (storingsOf cache temps records) before
      (progressOf cache before temps turns records) := sound_progressOf hpaths hfresh.distinct turns
  have hbefore := hfresh.unused i hi place ((locate_eq_ok_iff hsound.directories).mpr hplace)
  have hreturned : ((progressOf cache before temps turns records).resultAt? i).isSome = true := by
    rw [resultAt?_of_results? hresults,
      List.getElem?_eq_getElem ((length_results hresults).symm ▸ hi), Option.isSome_some]
  have hcall : (storingsOf cache temps records)[i]? =
      some (cache.storing records[i].path records[i].bytes (temps i)) := by
    rw [getElem?_storingsOf, List.getElem?_eq_getElem hi, Option.map_some]
  rcases hsound.entryAt?_temp hcall hreturned hplace with hnone | hsame
  · exact ⟨hnone, hbefore⟩
  · exact ⟨hsame.trans hbefore, hbefore⟩

section

variable (hpaths : ∀ record ∈ records, cache.IsPathOf record.path record.bytes)
  (hdistinct : ((List.range records.length).map temps).Nodup) {turns : List Cache.Turn}
  {results : List (Except FileError Bool)}
  (hresults : (progressOf cache before temps turns records).results? = some results)
  {written : List Bool} (hwritten : storedOf records results = written.map .ok)
  {call : Cache.Storing} (hmem : call ∈ storingsOf cache temps records)

include hpaths hdistinct hresults hwritten hmem

theorem fills_of_results :
    Cache.Fills cache.skipExisting (storingsOf cache temps records) before
      (progressOf cache before temps turns records).files call := by
  obtain ⟨i, hcall⟩ := List.mem_iff_getElem?.mp hmem
  have hstored := hcall
  rw [getElem?_storingsOf] at hstored
  obtain ⟨record, hrecord, -⟩ := Option.map_eq_some_iff.mp hstored
  obtain ⟨value, hresult⟩ := exists_resultAt?_of_written hresults hwritten hrecord
  exact (sound_progressOf hpaths hdistinct turns).fills hcall hresult

variable (hdigest : ∀ other ∈ storingsOf cache temps records,
  Sha256.digest other.bytes = Sha256.digest call.bytes → other.bytes = call.bytes)

include hdigest

/-- After stores that have all succeeded the bytes of each are at its path, if the cache was right
about them. -/
theorem read_of_results (hright : cache.IsRightAbout before call.target call.bytes) :
    (progressOf cache before temps turns records).files.read call.target = .ok call.bytes :=
  (fills_of_results hpaths hdistinct hresults hwritten hmem).read
    (sound_progressOf hpaths hdistinct turns).directories (isPathOf_of_mem_storingsOf hpaths) hmem
    hdigest hright

/-- After stores that have all succeeded a file of the right length is at the path of each, whether
the cache was right about it or not. -/
theorem hasFile_of_results :
    (progressOf cache before temps turns records).files.hasFile call.target call.bytes.size =
      true :=
  (fills_of_results hpaths hdistinct hresults hwritten hmem).hasFile
    (sound_progressOf hpaths hdistinct turns).directories (isPathOf_of_mem_storingsOf hpaths) hmem
    hdigest

end

/-- The first error of some stores tells the path of its record. -/
theorem exists_of_firstError_storedOf {results : List (Except FileError Bool)}
    {e : TransformError} (h : firstError (storedOf records results) = .error e) :
    ∃ (i : Nat) (record : Record) (cause : FileError), records[i]? = some record ∧
      e = .writeFailed record.path cause ∧ (storedOf records results)[i]? = some (.error e) ∧
        ∀ j < i, ∃ written, (storedOf records results)[j]? = some (.ok written) := by
  obtain ⟨i, hi, hearlier⟩ := exists_of_firstError_eq_error h
  have hstored := hi
  rw [getElem?_storedOf] at hstored
  obtain ⟨record, hrecord, hstored⟩ := Option.bind_eq_some_iff.mp hstored
  obtain ⟨result, -, hresult⟩ := Option.map_eq_some_iff.mp hstored
  cases result with
  | ok written => cases hresult
  | error cause =>
    exact ⟨i, record, cause, hrecord, (Except.error.inj hresult).symm, hi, hearlier⟩

/-- A run stores one file for each image of its plan at most. -/
theorem length_stores_le {t : Transform} {draws : Draws} {turns : List Cache.Turn} {world : World}
    {document : Document} {program : Tree} {report : Report} {path base : Path}
    (h : runInTurns t draws turns world document program = some report)
    (hplace : placeOf world document = .ok (path, base)) :
    report.stores.length ≤ (t.planOf program base).images.length := by
  have hbase {path' base' : Path} (hfound : placeOf world document = .ok (path', base')) :
      base = base' := (Prod.mk.inj (Except.ok.inj (hplace.symm.trans hfound))).2
  have hstored {contents : List ByteArray} {locals : List String}
      {results : List (Except FileError Bool)}
      (hnamed : t.Named draws world program (t.planOf program base) contents locals) :
      (storedOf (recordsOf t.cache (t.planOf program base).images locals contents) results).length ≤
        (t.planOf program base).images.length := by
    rw [storedOf, List.length_zipWith,
      length_recordsOf t.cache hnamed.length_locals hnamed.length_contents]
    exact Nat.min_le_left _ _
  cases endsInTurns_of_runInTurns h with
  | misplaced e hfound => exact Nat.zero_le _
  | unchanged path' base' hfound hplan => exact Nat.zero_le _
  | unresolved path' base' hfound results hresults e herror => exact Nat.zero_le _
  | unstored path' base' hfound contents locals hnamed records hrecords p hp results hresults e
      herror =>
    obtain rfl := hbase hfound
    exact hrecords ▸ hstored hnamed
  | rewritten path' base' hfound hplan contents locals hnamed records hrecords p hp results hresults
      written hwritten =>
    obtain rfl := hbase hfound
    exact hrecords ▸ hstored hnamed

end ImageImports.Transform
