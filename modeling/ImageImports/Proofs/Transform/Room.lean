import ImageImports.Proofs.Cache.Room
import ImageImports.Proofs.Names.Fresh
import ImageImports.Proofs.Source.Keys
import ImageImports.Proofs.Transform.History
import ImageImports.Proofs.Transform.Place

/-!
# Images that cannot be cached

An image that has been read or fetched is stored under another name than it came with: its ending
follows a content address, and the two may be too long together. If there is no room for that name
in the cache directory, the store fails, and with it the run for the whole document. If all images
of a document are resolved and there is room for all of them, the run succeeds, in whatever turns
the stores take their steps.

## Main definitions

* `Transform.CacheReady`: a cache directory that is there, with nothing in the way of the images.
* `Transform.Resolves`, `Transform.HasNames`: all images of a document are resolved, and there are
  names for all of them.

## Main results

* `Transform.crowds_of_resultAt?`, `Transform.hasRoom_of_resultAt?`: the stores of records.
* `Transform.crowds_of_runInTurns`: how a run ends whose images are resolved.
* `Transform.exists_report_of_resolves`: such a run comes to its end.
* `Transform.stores_fail_for_want_of_room`: which stores fail, and which runs.
-/

namespace ImageImports

namespace Transform

open FileSystem

/-! ### Stores of records -/

section

variable {cache : Cache} {temps : Nat → Uuid} {records : List Record} {before : FileSystem}
  {directory : Location} {turns : List Cache.Turn} {i : Nat} {record : Record}
  {extension : String}
  (hpaths : ∀ record ∈ records, cache.IsPathOf record.path record.bytes)
  (hfresh : FreshTemps cache before temps records.length)
  (hdirectory : before.locate cache.directory = .ok directory)
  (hentry : before.entryAt? directory = some .directory)
  (hrecord : records[i]? = some record) (hslash : '/' ∉ extension.toList)
  (hpath : record.path = cache.pathFor record.bytes extension)

include hpaths hfresh hdirectory hentry hrecord hslash hpath

/-- The store of a record that is not made to fail does so for want of room. -/
theorem crowds_of_resultAt? (hfaults : ∀ turn ∈ turns, turn.fault = none)
    (hfree : ∀ place, before.locate record.path = .ok place →
      before.entryAt? place ≠ some .directory) {cause : FileError}
    (h : (progressOf cache before temps turns records).resultAt? i = some (.error cause)) :
    cache.Crowds record.bytes extension cause := by
  have hlt := (List.getElem?_eq_some_iff.mp hrecord).1
  have hcall : (storingsOf cache temps records)[i]? =
      some (cache.storing (cache.pathFor record.bytes extension) record.bytes (temps i)) := by
    rw [getElem?_storingsOf, hrecord, Option.map_some, hpath]
  have hfails : (cache.storing (cache.pathFor record.bytes extension) record.bytes
      (temps i)).FailsBy before (cache.Crowds record.bytes extension) := by
    refine Cache.failsBy_crowds hdirectory hentry hslash (fun place hplace => ?_) (hpath ▸ hfree)
    rw [hfresh.unused i hlt place hplace]
    exact nofun
  have hstart : ∀ call ∈ storingsOf cache temps records, call.stage = .check := by
    intro call hmem
    obtain ⟨j, other, -, rfl⟩ := exists_of_mem_storingsOf hmem
    rfl
  exact (hfails.turns (apart_storingsOf hpaths hfresh.distinct) (Cache.sound_start hstart) hcall
    hfaults ⟨.check, hcall, trivial⟩).cause h

/-- There is room for a record whose store has succeeded. -/
theorem hasRoom_of_resultAt? {written : Bool}
    (h : (progressOf cache before temps turns records).resultAt? i = some (.ok written)) :
    cache.HasRoom record.bytes extension := by
  have hsound : Cache.Sound cache.skipExisting (storingsOf cache temps records) before
      (progressOf cache before temps turns records) := sound_progressOf hpaths hfresh.distinct turns
  have hcall : (storingsOf cache temps records)[i]? =
      some (cache.storing (cache.pathFor record.bytes extension) record.bytes (temps i)) := by
    rw [getElem?_storingsOf, hrecord, Option.map_some, hpath]
  exact Cache.hasRoom_of_fills hdirectory hentry hslash (hsound.fills hcall h)

end

/-! ### Runs whose images are resolved -/

variable {t : Transform} {draws : Draws} {turns : List Cache.Turn} {world : World}
  {document : Document} {program : Tree} {report : Report}

variable (t world document program) in
/-- A cache directory that is ready for the images of a document: it is there, and no directory is
where an image belongs. -/
structure CacheReady : Prop where
  directory : ∃ place, world.files.locate t.cache.directory = .ok place ∧
    world.files.entryAt? place = some .directory
  free : ∀ image bytes, t.Loads world document program image bytes →
    ∀ place, world.files.locate (t.cache.pathFor bytes image.extension) = .ok place →
      world.files.entryAt? place ≠ some .directory

variable (t world document program) in
/-- The document has a place, and all its images are resolved. -/
structure Resolves : Prop where
  placed : ∃ path base, placeOf world document = .ok (path, base)
  resolved : ∀ path base, placeOf world document = .ok (path, base) →
    ∀ image ∈ (t.planOf program base).images,
      ∃ bytes, (t.resolve world image).result = some (.ok bytes)

variable (t draws world document program) in
/-- There are names for all images of the document. -/
def HasNames : Prop :=
  ∀ path base, placeOf world document = .ok (path, base) → ∃ locals,
    (NameSupply.ofProgram t.identifiers draws.names program).take?
      (t.planOf program base).images.length = some locals

/-- Every image of a plan whose images are named has a record. -/
theorem exists_record_of_mem {plan : Plan} {contents : List ByteArray} {locals : List String}
    (hnamed : t.Named draws world program plan contents locals) {image : PlannedImage}
    (hmem : image ∈ plan.images) : ∃ (i : Nat) (record : Record), plan.images[i]? = some image ∧
      (recordsOf t.cache plan.images locals contents)[i]? = some record := by
  obtain ⟨i, hi⟩ := List.mem_iff_getElem?.mp hmem
  have hlength : (recordsOf t.cache plan.images locals contents).length = plan.images.length :=
    length_recordsOf t.cache hnamed.length_locals hnamed.length_contents
  exact ⟨i, _, hi, List.getElem?_eq_getElem (hlength ▸ (List.getElem?_eq_some_iff.mp hi).1)⟩

section

variable (hready : t.CacheReady world document program) {path base : Path}
  (hplace : placeOf world document = .ok (path, base)) {contents : List ByteArray}
  {locals : List String}
  (hnamed : t.Named draws world program (t.planOf program base) contents locals)
  {records : List Record}
  (hrecords : records = recordsOf t.cache (t.planOf program base).images locals contents)
  {results : List (Except FileError Bool)}
  (hresults : (progressOf t.cache world.files draws.temps turns records).results? = some results)
  (hfresh : FreshTemps t.cache world.files draws.temps (storedOf records results).length)

include hready hplace hnamed hrecords hresults hfresh

/-- The first store of a run that fails is that of an image for which there is no room. -/
theorem crowds_of_unstored (hfaults : ∀ turn ∈ turns, turn.fault = none) {e : TransformError}
    (herror : firstError (storedOf records results) = .error e) :
    ∃ image bytes cause, t.Loads world document program image bytes ∧
      t.cache.Crowds bytes image.extension cause ∧
      e = .writeFailed (t.cache.pathFor bytes image.extension) cause := by
  subst hrecords
  obtain ⟨directory, hdirectory, hentry⟩ := hready.directory
  rw [length_storedOf hresults] at hfresh
  obtain ⟨i, record, cause, hrecord, rfl, hi, -⟩ := exists_of_firstError_storedOf herror
  obtain ⟨image, himage, hresolved, hpath⟩ :=
    exists_of_mem_recordsOf hnamed (List.mem_of_getElem? hrecord)
  have hload : t.Loads world document program image record.bytes :=
    ⟨⟨path, base, hplace, himage⟩, hresolved⟩
  rw [getElem?_storedOf, hrecord, Option.bind_some] at hi
  obtain ⟨result, hresult, hcause⟩ := Option.map_eq_some_iff.mp hi
  cases result with
  | ok written => cases hcause
  | error other =>
    obtain rfl : other = cause := (TransformError.writeFailed.inj (Except.error.inj hcause)).2
    rw [← resultAt?_of_results? hresults] at hresult
    refine ⟨image, record.bytes, other, hload, ?_, by rw [← hpath]⟩
    refine crowds_of_resultAt? (isPathOf_of_mem_recordsOf hnamed) hfresh hdirectory hentry hrecord
      (slash_notMem_of_planOf himage) hpath hfaults ?_ hresult
    rw [hpath]
    exact hready.free image _ hload

/-- There was room for all images of a run whose stores have succeeded. -/
theorem hasRoom_of_stored {written : List Bool}
    (hwritten : storedOf records results = written.map .ok) {image : PlannedImage}
    {bytes : ByteArray} (hload : t.Loads world document program image bytes) :
    t.cache.HasRoom bytes image.extension := by
  subst hrecords
  obtain ⟨directory, hdirectory, hentry⟩ := hready.directory
  rw [length_storedOf hresults] at hfresh
  obtain ⟨path', base', hplace', hmem⟩ := hload.planned
  obtain ⟨-, rfl⟩ := Prod.mk.inj (Except.ok.inj (hplace'.symm.trans hplace))
  obtain ⟨i, record, himage, hrecord⟩ := exists_record_of_mem hnamed hmem
  obtain ⟨hresolved, hpath⟩ := resolve_of_getElem?_recordsOf hnamed himage hrecord
  obtain rfl : bytes = record.bytes :=
    Except.ok.inj (Option.some.inj (hload.resolved.symm.trans hresolved))
  obtain ⟨value, hvalue⟩ := exists_resultAt?_of_written hresults hwritten hrecord
  exact hasRoom_of_resultAt? (isPathOf_of_mem_recordsOf hnamed) hfresh hdirectory hentry hrecord
    (slash_notMem_of_planOf hmem) hpath hvalue

end

/-- A run whose images are resolved succeeds where there is room for all of them. Else it fails by
the store of an image for which there is none. -/
theorem crowds_of_runInTurns (hready : t.CacheReady world document program)
    (hresolves : t.Resolves world document program)
    (hfaults : ∀ turn ∈ turns, turn.fault = none)
    (hrun : runInTurns t draws turns world document program = some report)
    (hfresh : FreshTemps t.cache world.files draws.temps report.stores.length) :
    (report.result = .ok () ∧ ∀ image bytes, t.Loads world document program image bytes →
      t.cache.HasRoom bytes image.extension) ∨
    ∃ image bytes cause, t.Loads world document program image bytes ∧
      t.cache.Crowds bytes image.extension cause ∧
      report.result = .error (.writeFailed (t.cache.pathFor bytes image.extension) cause) := by
  cases endsInTurns_of_runInTurns hrun with
  | misplaced e hplace =>
    obtain ⟨path, base, hplaced⟩ := hresolves.placed
    cases hplace.symm.trans hplaced
  | unchanged path base hplace hplan =>
    refine .inl ⟨rfl, fun image bytes hload => ?_⟩
    obtain ⟨path', base', hplace', hmem⟩ := hload.planned
    obtain ⟨-, rfl⟩ := Prod.mk.inj (Except.ok.inj (hplace'.symm.trans hplace))
    rw [hplan] at hmem
    cases hmem
  | unresolved path base hplace results hresults e herror =>
    have hmem : some (.error e) ∈ (t.planOf program base).images.map fun image =>
        (t.resolve world image).result := by
      rw [hresults]
      exact List.mem_map_of_mem (mem_of_firstError_eq_error herror)
    obtain ⟨image, himage, herror⟩ := List.mem_map.mp hmem
    obtain ⟨bytes, hbytes⟩ := hresolves.resolved path base hplace image himage
    cases herror.symm.trans hbytes
  | unstored path base hplace contents locals hnamed records hrecords p hp results hresults e
      herror =>
    subst hp
    obtain ⟨image, bytes, cause, hload, hcrowds, rfl⟩ :=
      crowds_of_unstored hready hplace hnamed hrecords hresults hfresh hfaults herror
    exact .inr ⟨image, bytes, cause, hload, hcrowds, rfl⟩
  | rewritten path base hplace hplan contents locals hnamed records hrecords p hp results hresults
      written hwritten =>
    subst hp
    exact .inl ⟨rfl, fun image bytes =>
      hasRoom_of_stored hready hplace hnamed hrecords hresults hfresh hwritten⟩

/-- A run whose images are resolved goes on to keep them. -/
theorem run_of_named {path base : Path} (hplace : placeOf world document = .ok (path, base))
    (hplan : (t.planOf program base).images ≠ []) {contents : List ByteArray}
    {locals : List String}
    (hnamed : t.Named draws world program (t.planOf program base) contents locals) :
    run t draws world document program =
      keep t draws (t.factoryNames program) (t.planOf program base) contents
        ((Report.begun world document program path).withResolutions
          (t.resolutionsOf world (t.planOf program base))) := by
  have hnonempty : (t.planOf program base).isEmpty = false := by simp [Plan.isEmpty, hplan]
  rw [run, hplace]
  change (if (t.planOf program base).isEmpty then _ else resolveAll t draws
    (t.factoryNames program) (t.planOf program base) (Report.begun world document program path)) = _
  rw [hnonempty, if_neg Bool.false_ne_true]
  change (((t.resolutionsOf world (t.planOf program base)).map Prod.snd).mapM
    Resolution.result).bind _ = _
  rw [hnamed.mapM_result, Option.bind_some, firstError_eq_ok_iff.mpr rfl]
  rfl

/-- A run whose images are all resolved comes to its end if there are names for all of them. -/
theorem exists_report_of_resolves (hresolves : t.Resolves world document program)
    (hnames : t.HasNames draws world document program) :
    ∃ report, run t draws world document program = some report := by
  obtain ⟨path, base, hplace⟩ := hresolves.placed
  obtain ⟨locals, hlocals⟩ := hnames path base hplace
  have hcontents : ((t.planOf program base).images.map fun image =>
      (t.resolve world image).result) ∈ Set.range (List.map fun bytes => some (.ok bytes)) := by
    rw [Set.range_list_map]
    intro result hmem
    obtain ⟨image, himage, rfl⟩ := List.mem_map.mp hmem
    obtain ⟨bytes, hbytes⟩ := hresolves.resolved path base hplace image himage
    exact ⟨bytes, hbytes.symm⟩
  obtain ⟨contents, hcontents⟩ := hcontents
  by_cases hplan : (t.planOf program base).images = []
  · rw [← runInTurns_oneByOne hplace]
    exact ⟨_, runInTurns_of_images_nil hplace hplan⟩
  · have hnamed : t.Named draws world program (t.planOf program base) contents locals :=
      ⟨hcontents.symm, hlocals⟩
    rw [run_of_named hplace hplan hnamed, keep, hnamed.length_contents]
    exact ⟨_, Option.map_eq_some_iff.mpr ⟨locals, hlocals, rfl⟩⟩

/-! ### Where there is room and where there is not -/

/-- Images that are resolved are stored just if there is room for them. In a cache directory that is
there, and as long as no directory is where a file is written or belongs, the store of an image
succeeds if and only if the content address and the ending make a name that is not too long, the
path of the file is not too long either, and the ending has no zero character. If a store fails, the
error names the planned path and says which of these it is. A run whose images are all resolved
comes to its end if there are names for all of them. It succeeds where there is room for all of
them, and else it fails by the store of one for which there is none, in whatever turns the stores
take their steps; the run that is computed is one of these. -/
theorem stores_fail_for_want_of_room :
    (∀ (c : Cache) (source : Source) (reference : String) (bytes : ByteArray) (draw : Uuid)
      (files : FileSystem) (directory : Location),
      let extension := source.extension reference
      let path := c.pathFor bytes extension
      let stored := (c.store path bytes draw files).2
      files.locate c.directory = .ok directory → files.entryAt? directory = some .directory →
      (∀ place, files.locate (c.tempPath draw) = .ok place →
        files.entryAt? place ≠ some .directory) →
      (∀ place, files.locate path = .ok place → files.entryAt? place ≠ some .directory) →
      ((∃ written, stored = .ok written) ↔ c.HasRoom bytes extension) ∧
      ∀ e, stored = .error e →
        ∃ cause, e = .writeFailed path cause ∧ c.Crowds bytes extension cause) ∧
    ∀ (t : Transform) (draws : Draws) (world : World) (document : Document) (program : Tree),
      (∃ turns : List Cache.Turn, (∀ turn ∈ turns, turn.fault = none) ∧
        runInTurns t draws turns world document program = run t draws world document program) ∧
      (t.CacheReady world document program → t.Resolves world document program →
        (t.HasNames draws world document program →
          ∃ report, run t draws world document program = some report) ∧
        ∀ (turns : List Cache.Turn) report, (∀ turn ∈ turns, turn.fault = none) →
          runInTurns t draws turns world document program = some report →
          FreshTemps t.cache world.files draws.temps report.stores.length →
          (report.result = .ok () ∧ ∀ image bytes, t.Loads world document program image bytes →
            t.cache.HasRoom bytes image.extension) ∨
          ∃ image bytes cause, t.Loads world document program image bytes ∧
            t.cache.Crowds bytes image.extension cause ∧
            report.result =
              .error (.writeFailed (t.cache.pathFor bytes image.extension) cause)) := by
  refine ⟨fun c source reference bytes draw files directory => ?_,
    fun t draws world document program => ⟨?_, fun hready hresolves => ⟨?_, ?_⟩⟩⟩
  · intro extension path stored hdirectory hentry htemp hfree
    have hslash := source.slash_notMem_extension reference
    exact ⟨Cache.store_eq_ok_iff hdirectory hentry hslash htemp hfree,
      fun e => Cache.crowds_of_store hdirectory hentry hslash htemp hfree⟩
  · exact exists_faultless_runInTurns_eq t draws world document program
  · exact exists_report_of_resolves hresolves
  · exact fun turns report => crowds_of_runInTurns hready hresolves

theorem entryAt?_withImage (name : List UInt8) :
    World.withImage.files.entryAt? (["c"].map Utf8.encode ++ [name]) = none := by
  have hother : (Utf8.encode "c" == Utf8.encode "p") = false := by decide
  simp [entryAt?, World.withImage, List.lookup_cons, hother]

theorem hasRoom_withImage : (offline "/c" 'j').cache.HasRoom ⟨#[1]⟩ ".png" := by
  refine ⟨by decide, by decide, ?_⟩
  have hname := (offline "/c" 'j').cache.isFileName_fileName ⟨#[1]⟩
    (show '/' ∉ ".png".toList by decide)
  have hpath : (offline "/c" 'j').cache.pathFor ⟨#[1]⟩ ".png" =
      (offline "/c" 'j').cache.directory.join
        ⟨Utf8.encode ((offline "/c" 'j').cache.fileName ⟨#[1]⟩ ".png")⟩ := rfl
  rw [hpath, Path.bytes_join (Path.isAbsolute_of_isFileName hname), List.length_append,
    Cache.length_encode, Cache.utf8ByteSize_fileName]
  decide

theorem free_withImage (place : Location)
    (h : World.withImage.files.locate ((offline "/c" 'j').cache.pathFor ⟨#[1]⟩ ".png") =
      .ok place) : World.withImage.files.entryAt? place ≠ some .directory :=
  entryAt?_ne_directory_of_empty rfl rfl
    ((offline "/c" 'j').cache.isFileName_fileName ⟨#[1]⟩ (by decide)) entryAt?_withImage place h

theorem cacheReady_withImage : (offline "/c" 'j').CacheReady .withImage
    (.ofPath (.ofText "/p/index.md")) .nestedImages := by
  refine ⟨⟨["c"].map Utf8.encode, rfl, rfl⟩, fun image bytes hload => ?_⟩
  obtain ⟨rfl, rfl⟩ := loads_nestedImages_iff.mp hload
  exact free_withImage

theorem resolves_nestedImages : (offline "/c" 'j').Resolves .withImage
    (.ofPath (.ofText "/p/index.md")) .nestedImages := by
  refine ⟨⟨_, _, placeOf_withImage⟩, fun path base hplace image hmem => ?_⟩
  obtain ⟨rfl, rfl⟩ := Prod.mk.inj (Except.ok.inj (placeOf_withImage.symm.trans hplace))
  rw [images_nestedImages, List.mem_singleton] at hmem
  exact ⟨_, (loads_nestedImages_iff.mpr ⟨hmem, rfl⟩).resolved⟩

/-- An image with a short name is stored, and its document is rewritten. -/
theorem stores_fail_for_want_of_room_nested :
    (∃ written, ((offline "/c" 'j').cache.store ((offline "/c" 'j').cache.pathFor ⟨#[1]⟩ ".png")
      ⟨#[1]⟩ (Draws.counted.temps 0) World.withImage.files).2 = .ok written) ∧
    ∃ report, run (offline "/c" 'j') .counted .withImage (.ofPath (.ofText "/p/index.md"))
      .nestedImages = some report ∧ report.result = .ok () := by
  obtain ⟨hstores, hruns⟩ := stores_fail_for_want_of_room
  constructor
  · have hended : (Source.local (.ofText "/p/logo.png")).extension "logo.png" = ".png" := by decide
    have hstored := hstores (offline "/c" 'j').cache (.local (.ofText "/p/logo.png")) "logo.png"
      ⟨#[1]⟩ (Draws.counted.temps 0) World.withImage.files (["c"].map Utf8.encode)
    rw [hended] at hstored
    refine (hstored rfl rfl ?_ free_withImage).1.mpr hasRoom_withImage
    exact entryAt?_ne_directory_of_empty rfl rfl (Cache.isFileName_tempName _) entryAt?_withImage
  · obtain ⟨⟨turns, hfaults, hturns⟩, hrun⟩ :=
      hruns (offline "/c" 'j') .counted .withImage (.ofPath (.ofText "/p/index.md")) .nestedImages
    obtain ⟨hreport, hends⟩ := hrun cacheReady_withImage resolves_nestedImages
    obtain ⟨report, hrun⟩ := hreport fun _ _ _ => NameSupply.exists_take?_counter _ _ _ _
    rw [hrun] at hturns
    have hcount : report.stores.length ≤ 1 := by
      have hle := length_stores_le hturns placeOf_withImage
      rwa [images_nestedImages] at hle
    refine ⟨report, hrun, ?_⟩
    rcases hends turns report hfaults hturns (freshTemps_withImage hcount) with
      ⟨hok, -⟩ | ⟨image, bytes, cause, hload, ⟨hfull, -⟩, -⟩
    · exact hok
    · obtain ⟨rfl, rfl⟩ := loads_nestedImages_iff.mp hload
      exact absurd hasRoom_withImage hfull

end Transform

/-! ### A name for which there is no room -/

/-- A name of as many bytes as a name may have. Most of it is its ending. -/
def longName : String := String.ofList ('a' :: '.' :: List.replicate 253 'x')

/-- A world with an empty cache, in which the directory `p` holds an image with a long name. -/
def World.withLongName : World where
  files := ⟨[(["c"].map Utf8.encode, .directory), (["p"].map Utf8.encode, .directory),
    (["p", longName].map Utf8.encode, .file ⟨#[1]⟩)]⟩
  workingDirectory := none
  time := .zero
  asked := fun _ => 0

namespace Transform

open FileSystem

theorem toList_longName : longName.toList = 'a' :: '.' :: List.replicate 253 'x' :=
  String.toList_ofList

theorem mem_longName {c : Char} (h : c ∈ longName.toList) : c = 'a' ∨ c = '.' ∨ c = 'x' := by
  rw [toList_longName, List.mem_cons, List.mem_cons] at h
  exact h.imp_right (Or.imp_right List.eq_of_mem_replicate)

/-- No character of the long name has a meaning in a path or a URL, and all of them take one
byte. -/
theorem plain_longName {c : Char} (h : c ∈ longName.toList) :
    (c ≠ '/' ∧ c ≠ '?' ∧ c ≠ '#') ∧ c ≠ ':' ∧ c ≠ '\x00' ∧ c.utf8Size = 1 := by
  rcases mem_longName h with rfl | rfl | rfl <;> decide

theorem utf8ByteSize_longName : longName.utf8ByteSize = 255 := by
  rw [← String.utf8Len_toList, Cache.utf8Len_eq_length fun c h => (plain_longName h).2.2.2,
    toList_longName, List.length_cons, List.length_cons, List.length_replicate]

theorem isFileName_longName : Path.IsFileName (Utf8.encode longName) := by
  have hshort {short : String} (h : short.utf8ByteSize < 255) : longName ≠ short := by
    rintro rfl
    exact Nat.lt_irrefl _ (utf8ByteSize_longName ▸ h)
  exact Path.isFileName_encode (fun h => (plain_longName h).1.1 rfl)
    ⟨hshort (by decide), hshort (by decide), hshort (by decide)⟩

theorem admits_longName : Admits (.ofText "/p") (Utf8.encode longName) := by
  have hsize : (Utf8.encode longName).length = 255 := by
    rw [Cache.length_encode, utf8ByteSize_longName]
  refine ⟨?_, Nat.le_of_eq hsize, ?_⟩
  · rw [Cache.nul_mem_encode_iff]
    exact fun h => (plain_longName h).2.2.1 rfl
  · rw [Path.bytes_join (Path.isAbsolute_of_isFileName isFileName_longName), List.length_append,
      hsize]
    decide

theorem toList_extension_longName :
    (extension longName).toList = '.' :: List.replicate 253 'x' := by
  have hdot : '.' ∉ List.replicate 253 'x' := fun h =>
    absurd (List.eq_of_mem_replicate h) (by decide)
  rw [extension_of_name fun c h => (plain_longName h).1, String.toList_ofList, toList_longName]
  exact ending_append (List.cons_ne_nil 'a' []) hdot

theorem mem_of_mem_extension_longName {c : Char} (h : c ∈ (extension longName).toList) :
    c ∈ longName.toList := by
  rw [toList_extension_longName] at h
  rw [toList_longName]
  exact List.mem_cons_of_mem _ h

theorem utf8ByteSize_extension_longName : (extension longName).utf8ByteSize = 254 := by
  rw [← String.utf8Len_toList, Cache.utf8Len_eq_length fun c h =>
      (plain_longName (mem_of_mem_extension_longName h)).2.2.2,
    toList_extension_longName, List.length_cons, List.length_replicate]

theorem imageOf_longName (ascii : Url.ToAscii) : Plan.imageOf ascii (.ofText "/p") longName =
    ⟨longName, .local ((Path.ofText "/p").join (.ofText longName)).normalize,
      extension longName⟩ := by
  have hnone : Url.parse? ascii longName = none :=
    Url.parse?_eq_none_of_notMem fun h => (plain_longName h).2.1 rfl
  rw [Plan.imageOf, Source.classify_eq_local hnone]
  rfl

theorem result_resolve_longName (t : Transform) :
    (t.resolve .withLongName (Plan.imageOf t.ascii (.ofText "/p") longName)).result =
      some (.ok ⟨#[1]⟩) := by
  have hread : World.withLongName.files.read ((Path.ofText "/p").join (.ofText longName)) =
      .ok ⟨#[1]⟩ := by
    have hdirectory : World.withLongName.files.locate (.ofText "/p") =
      .ok (["p"].map Utf8.encode) := rfl
    refine read_eq_ok_iff.mpr ⟨["p", longName].map Utf8.encode, ?_, ?_⟩
    · exact (locate_join_eq_ok_iff hdirectory rfl isFileName_longName).mpr ⟨admits_longName, rfl⟩
    · simp [entryAt?, World.withLongName, List.lookup_cons]
  have hnormal := read_normalize (Path.isAbsolute_join (by decide +kernel) _) hread
  rw [imageOf_longName]
  change some (readLocal _ _) = _
  rw [readLocal, hnormal]
  rfl

/-- An image can be read by a name for which there is no room in the cache. The cache directory is
there and nothing is in it, and yet the store of the image fails. -/
theorem long_name_is_not_stored :
    let t := offline "/c" 'j'
    let image := Plan.imageOf t.ascii (.ofText "/p") longName
    let path := t.cache.pathFor ⟨#[1]⟩ image.extension
    let files := World.withLongName.files
    (t.resolve .withLongName image).result = some (.ok ⟨#[1]⟩) ∧
    files.locate t.cache.directory = .ok (["c"].map Utf8.encode) ∧
    files.entryAt? (["c"].map Utf8.encode) = some .directory ∧
    (∀ name, files.entryAt? (["c"].map Utf8.encode ++ [name]) = none) ∧
    nameLimit < (contentHash ⟨#[1]⟩ t.cache.encoding ++ image.extension).utf8ByteSize ∧
    ∀ draw, (t.cache.store path ⟨#[1]⟩ draw files).2 = .error (.writeFailed path .nameTooLong) := by
  intro t image path files
  have hended : image.extension = extension longName := by
    rw [show image = _ from imageOf_longName _]
  have hslash : '/' ∉ image.extension.toList := by
    rw [hended]
    exact slash_notMem_extension longName
  have hlong : nameLimit < (t.cache.fileName ⟨#[1]⟩ image.extension).utf8ByteSize := by
    rw [Cache.utf8ByteSize_fileName, hended, utf8ByteSize_extension_longName]
    decide
  have hdirectory : files.locate t.cache.directory = .ok (["c"].map Utf8.encode) :=
    show World.withLongName.files.locate (.ofText "/c") = .ok (["c"].map Utf8.encode) from rfl
  have hentry : files.entryAt? (["c"].map Utf8.encode) = some .directory := rfl
  have hempty (name : List UInt8) : files.entryAt? (["c"].map Utf8.encode ++ [name]) = none := by
    have hother : (Utf8.encode "c" == Utf8.encode "p") = false := by decide
    simp [files, entryAt?, World.withLongName, List.lookup_cons, hother]
  refine ⟨result_resolve_longName t, hdirectory, hentry, hempty, hlong, fun draw => ?_⟩
  have htemp := entryAt?_ne_directory_of_empty hdirectory hentry (Cache.isFileName_tempName draw)
    hempty
  have htarget := entryAt?_ne_directory_of_empty hdirectory hentry
    (t.cache.isFileName_fileName ⟨#[1]⟩ hslash) hempty
  cases hstore : (t.cache.store path ⟨#[1]⟩ draw files).2 with
  | ok written =>
    have hroom := (Cache.store_eq_ok_iff hdirectory hentry hslash htemp htarget).mp
      ⟨written, hstore⟩
    have hsize := hroom.size
    rw [← Cache.utf8ByteSize_fileName t.cache ⟨#[1]⟩] at hsize
    exact absurd hsize (Nat.not_le_of_lt hlong)
  | error e =>
    obtain ⟨cause, rfl, -, rfl | ⟨-, hnul⟩⟩ :=
      Cache.crowds_of_store hdirectory hentry hslash htemp htarget hstore
    · rfl
    · rw [hended] at hnul
      exact absurd rfl (plain_longName (mem_of_mem_extension_longName hnul)).2.2.1

end Transform

end ImageImports
