import ImageImports.Proofs.Transform.Contents
import ImageImports.Proofs.Transform.Failures

/-!
# What a failed run leaves

A run that fails leaves its program as it is. What else it has done is told by its error: one that
comes before the images are resolved leaves nothing behind, one of an image that is not resolved
leaves a message, and one of a store leaves files as well, each of them with all the bytes of an
image at the path of these bytes. It does not matter how the steps of the stores come between each
other, nor which of them fail.

## Main definitions

* `Transform.Stored`: what the stores of some records leave when one of them has failed.

## Main results

* `Transform.stored_of_progress`: what stores leave, whatever turns they took.
* `Transform.failed_run_leaves`: what a failed run leaves.
-/

namespace ImageImports.Transform

open FileSystem

/-- What the stores of some records leave when one of them has failed: every place is as it was or
holds all bytes of a record that belong there, a file is at the path of every record whose store
did not fail, the error is that of the first store that did, and none of the files that were
written first is left. -/
structure Stored (cache : Cache) (temps : Nat → Uuid) (records : List Record)
    (before after : FileSystem) (stores : List (Except TransformError Bool)) (e : TransformError) :
    Prop where
  length : stores.length = records.length
  place : ∀ place, after.entryAt? place = before.entryAt? place ∨ ∃ record ∈ records,
    before.locate record.path = .ok place ∧ after.entryAt? place = some (.file record.bytes)
  present : ∀ (i : Nat) record written, records[i]? = some record →
    stores[i]? = some (.ok written) → ∃ bytes, after.read record.path = .ok bytes
  first : ∃ (i : Nat) (record : Record) (cause : FileError), records[i]? = some record ∧
    e = .writeFailed record.path cause ∧ stores[i]? = some (.error e) ∧
      ∀ j < i, ∃ written, stores[j]? = some (.ok written)
  temp : ∀ i < records.length, ∀ place, after.locate (cache.tempPath (temps i)) = .ok place →
    after.entryAt? place = none

section

variable {cache : Cache} {temps : Nat → Uuid} {records : List Record} {before : FileSystem}
  {p : Cache.Progress} {results : List (Except FileError Bool)} {e : TransformError}

/-- Whatever turns the stores of some records took, they leave nothing but whole files. -/
theorem stored_of_progress
    (hpaths : ∀ record ∈ records, cache.IsPathOf record.path record.bytes)
    {turns : List Cache.Turn} (hp : p = progressOf cache before temps turns records)
    (hresults : p.results? = some results)
    (hfresh : FreshTemps cache before temps (storedOf records results).length)
    (herror : firstError (storedOf records results) = .error e) :
    Stored cache temps records before p.files (storedOf records results) e := by
  subst hp
  have hstores := length_storedOf hresults
  rw [hstores] at hfresh
  have hsound : Cache.Sound cache.skipExisting (storingsOf cache temps records) before
      (progressOf cache before temps turns records) := sound_progressOf hpaths hfresh.distinct turns
  refine ⟨hstores, fun place => ?_, fun i record written hrecord hstored => ?_,
    exists_of_firstError_storedOf herror, fun i hi place hplace =>
      (entryAt?_temp_of_results hpaths hresults hfresh hi hplace).1⟩
  · -- A place is that of a file that is written first, or it is told of by what the turns keep.
    by_cases htaken : ∃ call ∈ storingsOf cache temps records, before.locate call.temp = .ok place
    · obtain ⟨call, hmem, hplace⟩ := htaken
      obtain ⟨i, record, hrecord, rfl⟩ := exists_of_mem_storingsOf hmem
      obtain ⟨hafter, hbefore⟩ := entryAt?_temp_of_results hpaths hresults hfresh
        (List.getElem?_eq_some_iff.mp hrecord).1
        ((locate_eq_ok_iff hsound.directories).mp hplace)
      exact Or.inl (hafter.trans hbefore.symm)
    · cases hsound.entry place fun call hmem hplace => htaken ⟨call, hmem, hplace⟩ with
      | same h => exact Or.inl h
      | stored call hmem hplace h =>
        obtain ⟨i, record, hrecord, rfl⟩ := exists_of_mem_storingsOf hmem
        exact Or.inr ⟨record, List.mem_of_getElem? hrecord, hplace, h⟩
  · have hcall : (storingsOf cache temps records)[i]? =
        some (cache.storing record.path record.bytes (temps i)) := by
      rw [getElem?_storingsOf, hrecord, Option.map_some]
    have hread : ∃ bytes, (progressOf cache before temps turns records).files.read
        (cache.storing record.path record.bytes (temps i)).target = .ok bytes :=
      (hsound.fills hcall (resultAt?_of_storedOf hresults hrecord hstored)).exists_read
        hsound.directories
    exact hread

end

/-! ### Failed runs -/

variable {t : Transform} {draws : Draws} {world : World} {document : Document} {program : Tree}

/-- A run that fails leaves its program as it is, in whatever turns its stores take their steps and
whichever of these fail; the run that is computed is one of these runs. A document that has no
place leaves no trace at all. An image that cannot be resolved leaves one message and no file. A
store that fails leaves one message and nothing but whole files at the paths of the images, as far
as the names of files that are written first are new. -/
theorem failed_run_leaves (t : Transform) (draws : Draws) (world : World) (document : Document)
    (program : Tree) :
    (∃ turns, runInTurns t draws turns world document program =
      run t draws world document program) ∧
    ∀ turns report e, runInTurns t draws turns world document program = some report →
      report.result = .error e →
      report.program = program ∧
      (e.phase = .placing →
        report = { Report.start document world program with result := .error e }) ∧
      (e.phase = .resolving → ∃ path base, placeOf world document = .ok (path, base) ∧
        report.document = document.addMessage (processing path document.history) ∧
        report.world.files = world.files) ∧
      (e.phase = .storing → FreshTemps t.cache world.files draws.temps report.stores.length →
        ∃ path base contents locals, placeOf world document = .ok (path, base) ∧
          t.Named draws world program (t.planOf program base) contents locals ∧
          report.document = document.addMessage (processing path document.history) ∧
          Stored t.cache draws.temps
            (recordsOf t.cache (t.planOf program base).images locals contents) world.files
            report.world.files report.stores e) ∧
      e.phase ≠ .rewriting := by
  refine ⟨exists_runInTurns_eq t draws world document program, fun turns report e hrun he => ?_⟩
  cases endsInTurns_of_runInTurns hrun with
  | unchanged path base hplace hplan => cases he
  | rewritten path base hplace hplan contents locals hnamed records hrecords p hp results hresults
      written hwritten =>
    cases he
  | misplaced cause hplace =>
    obtain rfl := Except.error.inj he
    simp [phase_of_placeOf hplace, Report.start]
  | unresolved path base hplace results hresults cause herror =>
    obtain rfl := Except.error.inj he
    have hfiles : ((Report.begun world document program path).withResolutions
        (t.resolutionsOf world (t.planOf program base))).world.files = world.files :=
      World.files_afterAll world _
    have hphase := phase_of_resolutions hresults herror
    refine ⟨rfl, ?_, fun _ => ⟨path, base, hplace, rfl, hfiles⟩, ?_, ?_⟩ <;> simp [hphase]
  | unstored path base hplace contents locals hnamed records hrecords p hp results hresults cause
      herror =>
    obtain rfl := Except.error.inj he
    have hphase := phase_of_storedOf herror
    subst hrecords
    refine ⟨rfl, by simp [hphase], by simp [hphase], fun _ hfresh => ?_, by simp [hphase]⟩
    exact ⟨path, base, contents, locals, hplace, hnamed, rfl,
      stored_of_progress (isPathOf_of_mem_recordsOf hnamed) hp hresults hfresh herror⟩

/-- Turns of one store, the third of which fails after a byte is written. -/
def failingTurns : List Cache.Turn :=
  [⟨0, none⟩, ⟨0, none⟩, ⟨0, some ⟨.notFound, 1⟩⟩, ⟨0, none⟩]

/-- A run with a store that fails while it writes: the file that it began is taken away. -/
theorem failed_run_leaves_writing :
    ∃ report, runInTurns (offline "/c" 'j') .counted failingTurns .withImage
        (.ofPath (.ofText "/p/index.md")) .nestedImages = some report ∧
      report.program = .nestedImages ∧
      (∃ path cause, report.result = .error (.writeFailed path cause)) ∧
      ∀ place, report.world.files.locate ((offline "/c" 'j').cache.tempPath (Draws.counted.temps 0))
        = .ok place → report.world.files.entryAt? place = none := by
  have htold : ((runInTurns (offline "/c" 'j') .counted failingTurns .withImage
      (.ofPath (.ofText "/p/index.md")) .nestedImages).map fun report =>
        (match report.result with
          | .error e => some e.phase
          | .ok _ => none, report.stores.length)) = some (some .storing, 1) := by
    decide +kernel
  obtain ⟨report, hrun, hend⟩ := Option.map_eq_some_iff.mp htold
  obtain ⟨hphase, hcount⟩ := Prod.mk.inj hend
  have hfree : (match World.withImage.files.locate
      ((offline "/c" 'j').cache.tempPath (Draws.counted.temps 0)) with
        | .ok place => (World.withImage.files.entryAt? place).isNone
        | .error _ => true) = true := by
    decide +kernel
  have hfresh :
      FreshTemps (offline "/c" 'j').cache World.withImage.files Draws.counted.temps 1 := by
    refine ⟨by decide, fun i hi place hplace => ?_⟩
    obtain rfl : i = 0 := Nat.lt_one_iff.mp hi
    rw [hplace] at hfree
    exact Option.isNone_iff_eq_none.mp hfree
  cases hresult : report.result with
  | ok value => rw [hresult] at hphase; cases hphase
  | error e =>
    rw [hresult] at hphase
    have hstoring : e.phase = .storing := Option.some.inj hphase
    obtain ⟨hprogram, -, -, hleft, -⟩ := (failed_run_leaves (offline "/c" 'j') .counted .withImage
      (.ofPath (.ofText "/p/index.md")) .nestedImages).2 failingTurns report e hrun hresult
    obtain ⟨path, base, contents, locals, -, -, -, hstored⟩ := hleft hstoring (hcount ▸ hfresh)
    obtain ⟨i, record, cause, -, rfl, -⟩ := hstored.first
    have hone : 0 < (recordsOf (offline "/c" 'j').cache
        ((offline "/c" 'j').planOf .nestedImages base).images locals contents).length := by
      rw [← hstored.length, hcount]
      decide
    exact ⟨report, hrun, hprogram, ⟨record.path, cause, hresult⟩, hstored.temp 0 hone⟩

end ImageImports.Transform
