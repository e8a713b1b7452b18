import ImageImports.Proofs.Cache.Entries
import ImageImports.Proofs.Transform.AllOrNothing
import Mathlib.Data.Set.Card
import Mathlib.Logic.Relation

/-!
# The history of a cache directory

A cache directory outlives the runs that use it. Runs follow each other, with any documents and any
options but the directory, their stores take turns in any way, and each run succeeds or fails
somewhere. Between two runs anything may happen to the files, except that nobody else puts anything
into the directory. A directory that is sound at the start is so forever, and a run that succeeds
adds the files of its images and nothing else.

All this is said of byte strings that are told apart by their digests: of all strings together that
cannot be said, since there are more strings than digests.

## Main definitions

* `Transform.RunsIn`: a run in a cache directory, with images that are known byte strings.
* `Transform.Step`: what may happen to the files.
* `Transform.namesIn`: the names of all entries of a directory.
* `Transform.missing`: the digests and endings of the images of a document that are not there yet.

## Main results

* `Transform.isSound_of_runsIn`: a run keeps a directory sound, however it ends.
* `Transform.entry_eq_ok_iff_of_runsIn`: the entries of the directory after a run that succeeds.
* `Transform.encard_namesIn_of_runsIn`: the number of new entries.
* `Transform.cache_stays_sound`: what holds of every history.
-/

namespace ImageImports.Transform

open FileSystem

/-- What nobody but a run does: every entry of a directory was there before. -/
def Untouched (directory : Path) (before after : FileSystem) : Prop :=
  ∀ name found, Path.IsFileName name → after.entry (directory.join ⟨name⟩) = .ok found →
    before.entry (directory.join ⟨name⟩) = .ok found

/-- A run in a cache directory: the images of its document are known byte strings, and it draws
different identifiers for the files that it writes first. -/
structure RunsIn (directory : Path) (known : Set ByteArray) (t : Transform) (draws : Draws)
    (turns : List Cache.Turn) (world : World) (document : Document) (program : Tree)
    (report : Report) : Prop where
  place : t.cache.directory = directory
  ends : runInTurns t draws turns world document program = some report
  loads : ∀ image bytes, t.Loads world document program image bytes → bytes ∈ known
  temps : ((List.range report.stores.length).map draws.temps).Nodup

/-- What may happen to the files: a run in the cache directory, or anything that leaves the
directory untouched. -/
inductive Step (directory : Path) (known : Set ByteArray) : FileSystem → FileSystem → Prop
  | run {t : Transform} {draws : Draws} {turns : List Cache.Turn} {world : World}
      {document : Document} {program : Tree} {report : Report}
      (h : RunsIn directory known t draws turns world document program report) :
      Step directory known world.files report.world.files
  | elsewhere {before after : FileSystem} (h : Untouched directory before after) :
      Step directory known before after

/-- The names of all entries of a directory. -/
def namesIn (directory : Path) (files : FileSystem) : Set (List UInt8) :=
  {name | Path.IsFileName name ∧ ∃ found, files.entry (directory.join ⟨name⟩) = .ok found}

variable {directory : Path} {known : Set ByteArray} {t : Transform} {draws : Draws}
  {turns : List Cache.Turn} {world : World} {document : Document} {program : Tree}
  {report : Report} {path base : Path} {contents : List ByteArray} {locals : List String}

/-! ### The stores of a run -/

theorem exists_extension_of_planOf {image : PlannedImage}
    (h : image ∈ (t.planOf program base).images) :
    ∃ reference, image.extension = extension reference := by
  rw [planOf, (Plan.lists_ofProgram (t.factoryNames program) t.ascii base program).images] at h
  obtain ⟨reference, -, rfl⟩ := Plan.exists_of_mem_firsts t.ascii base h
  change ∃ last, (Source.classify t.ascii reference base).extension reference = extension last
  cases Source.classify t.ascii reference base with
  | remote url => exact ⟨url.path, rfl⟩
  | «local» _ => exact ⟨reference, rfl⟩

/-- The stores of a run are those of the images of its document, each with the bytes that the image
is resolved to and the path of these bytes. -/
theorem exists_call_iff (hplace : placeOf world document = .ok (path, base))
    (hnamed : t.Named draws world program (t.planOf program base) contents locals)
    (property : Path → ByteArray → Prop) :
    (∃ call ∈ storingsOf t.cache draws.temps
        (recordsOf t.cache (t.planOf program base).images locals contents),
      property call.target call.bytes) ↔
    ∃ image bytes, t.Loads world document program image bytes ∧
      property (t.cache.pathFor bytes image.extension) bytes := by
  constructor
  · rintro ⟨call, hmem, hproperty⟩
    obtain ⟨i, record, hrecord, rfl⟩ := exists_of_mem_storingsOf hmem
    obtain ⟨image, himage, hbytes, hpath⟩ :=
      exists_of_mem_recordsOf hnamed (List.mem_of_getElem? hrecord)
    exact ⟨image, record.bytes, ⟨⟨path, base, hplace, himage⟩, hbytes⟩, hpath ▸ hproperty⟩
  · rintro ⟨image, bytes, ⟨⟨path', base', hplace', himage⟩, hbytes⟩, hproperty⟩
    obtain ⟨-, rfl⟩ := Prod.mk.inj (Except.ok.inj (hplace.symm.trans hplace'))
    obtain ⟨i, hi⟩ := List.mem_iff_getElem?.mp himage
    have hlt : i < locals.length := by
      rw [hnamed.length_locals]
      exact (List.getElem?_eq_some_iff.mp hi).1
    have hcontents : contents[i]? = some bytes := by
      have hat := congrArg (·[i]?) hnamed.resolved
      simp only [List.getElem?_map, hi, Option.map_some, hbytes] at hat
      obtain ⟨found, hfound, hsame⟩ := Option.map_eq_some_iff.mp hat.symm
      rw [hfound, Except.ok.inj (Option.some.inj hsame)]
    refine ⟨t.cache.storing (t.cache.pathFor bytes image.extension) bytes (draws.temps i),
      List.mem_of_getElem? (i := i) ?_, hproperty⟩
    rw [getElem?_storingsOf, getElem?_recordsOf, hi, Option.bind_some,
      List.getElem?_eq_getElem hlt, Option.bind_some, hcontents]
    rfl

/-- The stores of a run are those of known byte strings. -/
theorem keeps_storingsOf (hplace : placeOf world document = .ok (path, base))
    (hnamed : t.Named draws world program (t.planOf program base) contents locals)
    (hloads : ∀ image bytes, t.Loads world document program image bytes → bytes ∈ known) :
    Cache.Keeps t.cache known (storingsOf t.cache draws.temps
      (recordsOf t.cache (t.planOf program base).images locals contents)) := by
  constructor
  · intro call hmem
    obtain ⟨image, bytes, hload, hpath, hbytes⟩ := (exists_call_iff hplace hnamed
      fun target bytes => target = call.target ∧ bytes = call.bytes).mp ⟨call, hmem, rfl, rfl⟩
    obtain ⟨path', base', -, himage⟩ := hload.planned
    obtain ⟨reference, hreference⟩ := exists_extension_of_planOf himage
    subst hbytes
    exact ⟨hloads image _ hload, reference, by rw [← hpath, hreference]⟩
  · intro call hmem
    obtain ⟨i, record, -, rfl⟩ := exists_of_mem_storingsOf hmem
    exact ⟨draws.temps i, rfl⟩

/-! ### One run -/

/-- A run leaves the files as they are, or it leaves what its stores leave, all of which have
returned; and if it succeeds, all its stores have succeeded. -/
theorem files_of_runsIn (h : RunsIn directory known t draws turns world document program report) :
    report.world.files = world.files ∧
      (report.result = .ok () → ∀ image bytes, ¬ t.Loads world document program image bytes) ∨
    ∃ path base contents locals results, placeOf world document = .ok (path, base) ∧
      t.Named draws world program (t.planOf program base) contents locals ∧
      report.world.files = (progressOf t.cache world.files draws.temps turns
        (recordsOf t.cache (t.planOf program base).images locals contents)).files ∧
      (progressOf t.cache world.files draws.temps turns
        (recordsOf t.cache (t.planOf program base).images locals contents)).results? =
          some results ∧
      report.stores = storedOf (recordsOf t.cache (t.planOf program base).images locals contents)
        results ∧
      (report.result = .ok () → ∃ written : List Bool, report.stores = written.map .ok) := by
  cases endsInTurns_of_runInTurns h.ends with
  | misplaced e hplace => exact .inl ⟨rfl, fun hok => by cases hok⟩
  | unchanged path base hplace hplan =>
    refine .inl ⟨rfl, fun _ image bytes hload => ?_⟩
    obtain ⟨path', base', hplace', himage⟩ := hload.planned
    obtain ⟨-, rfl⟩ := Prod.mk.inj (Except.ok.inj (hplace.symm.trans hplace'))
    rw [hplan] at himage
    cases himage
  | unresolved path base hplace results hresults e herror =>
    exact .inl ⟨World.files_afterAll world _, fun hok => by cases hok⟩
  | unstored path base hplace contents locals hnamed records hrecords p hp results hresults e
      herror =>
    subst hp hrecords
    exact .inr ⟨path, base, contents, locals, results, hplace, hnamed, rfl, hresults, rfl,
      fun hok => by cases hok⟩
  | rewritten path base hplace hplan contents locals hnamed records hrecords p hp results hresults
      written hwritten =>
    subst hp hrecords
    exact .inr ⟨path, base, contents, locals, results, hplace, hnamed, rfl, hresults, rfl,
      fun _ => ⟨written, hwritten⟩⟩

/-- A run keeps a directory sound, however it ends. -/
theorem isSound_of_runsIn (hdigest : known.InjOn Sha256.digest)
    (h : RunsIn directory known t draws turns world document program report)
    (hsound : Cache.IsSound directory known world.files) :
    Cache.IsSound directory known report.world.files := by
  obtain ⟨hfiles, -⟩ | ⟨path, base, contents, locals, results, hplace, hnamed, hfiles, hresults,
    hstores, -⟩ := files_of_runsIn h
  · rwa [hfiles]
  · have hdistinct := h.temps
    rw [hstores, length_storedOf hresults] at hdistinct
    rw [hfiles]
    obtain rfl := h.place
    exact hsound.of_turns hdigest (keeps_storingsOf hplace hnamed h.loads)
      (sound_progressOf (isPathOf_of_mem_recordsOf hnamed) hdistinct turns)

/-- The stores of a run that succeeds have their bytes at their paths, and have left nothing where
they wrote first. -/
theorem settled_of_results (hdigest : known.InjOn Sha256.digest)
    (hsound : Cache.IsSound t.cache.directory known world.files)
    (hplace : placeOf world document = .ok (path, base))
    (hnamed : t.Named draws world program (t.planOf program base) contents locals)
    (hloads : ∀ image bytes, t.Loads world document program image bytes → bytes ∈ known)
    {results : List (Except FileError Bool)}
    (hresults : (progressOf t.cache world.files draws.temps turns
      (recordsOf t.cache (t.planOf program base).images locals contents)).results? = some results)
    (hfresh : FreshTemps t.cache world.files draws.temps
      (recordsOf t.cache (t.planOf program base).images locals contents).length)
    {written : List Bool}
    (hwritten : storedOf (recordsOf t.cache (t.planOf program base).images locals contents)
      results = written.map .ok) :
    Cache.Settled (storingsOf t.cache draws.temps
        (recordsOf t.cache (t.planOf program base).images locals contents)) world.files
      (progressOf t.cache world.files draws.temps turns
        (recordsOf t.cache (t.planOf program base).images locals contents)).files := by
  have hpaths := isPathOf_of_mem_recordsOf hnamed
  have hkeeps := keeps_storingsOf hplace hnamed hloads
  have hturns : Cache.Sound t.cache.skipExisting (storingsOf t.cache draws.temps
      (recordsOf t.cache (t.planOf program base).images locals contents)) world.files
      (progressOf t.cache world.files draws.temps turns
        (recordsOf t.cache (t.planOf program base).images locals contents)) :=
    sound_progressOf hpaths hfresh.distinct turns
  constructor
  · intro call hmem
    obtain ⟨hknown, reference, htarget⟩ := hkeeps.target call hmem
    refine read_of_results hpaths hfresh.distinct hresults hwritten hmem
      (fun other hother hsame => hdigest (hkeeps.target other hother).1 hknown hsame) ?_
    rw [htarget]
    exact hsound.isRightAbout hknown reference
  · intro call hmem place hplace'
    obtain ⟨i, record, hrecord, rfl⟩ := exists_of_mem_storingsOf hmem
    obtain ⟨hafter, hbefore⟩ := entryAt?_temp_of_results hpaths hresults hfresh
      (List.getElem?_eq_some_iff.mp hrecord).1 ((locate_eq_ok_iff hturns.directories).mp hplace')
    exact ⟨hbefore, hafter⟩

/-! ### Runs that succeed -/

variable (t world document program) in
/-- The digests and endings of the images of a document whose files are not there. -/
def missing : Set (Digest × String) :=
  {pair | ∃ image bytes, t.Loads world document program image bytes ∧
    pair = (Sha256.digest bytes, image.extension) ∧
    ∀ found, world.files.entry (t.cache.pathFor bytes image.extension) ≠ .ok found}

section

variable (hdigest : known.InjOn Sha256.digest)
  (h : RunsIn directory known t draws turns world document program report)
  (hsound : Cache.IsSound directory known world.files)
  (hok : report.result = .ok ())
  (hfresh : FreshTemps t.cache world.files draws.temps report.stores.length)

include hdigest h hsound hok hfresh

/-- After a run that succeeds a directory holds the images of the document, and what it held under
every other name. -/
theorem entry_eq_ok_iff_of_runsIn {name : List UInt8} (hname : Path.IsFileName name)
    {found : Entry} :
    report.world.files.entry (directory.join ⟨name⟩) = .ok found ↔
      (∃ image bytes, t.Loads world document program image bytes ∧
        t.cache.pathFor bytes image.extension = directory.join ⟨name⟩ ∧ found = .file bytes) ∨
      (∀ image bytes, t.Loads world document program image bytes →
        t.cache.pathFor bytes image.extension ≠ directory.join ⟨name⟩) ∧
        world.files.entry (directory.join ⟨name⟩) = .ok found := by
  obtain ⟨hfiles, hnone⟩ | ⟨path, base, contents, locals, results, hplace, hnamed, hfiles, hresults,
    hstores, hwritten⟩ := files_of_runsIn h
  · rw [hfiles]
    constructor
    · exact fun hentry =>
        .inr ⟨fun image bytes hload => absurd hload (hnone hok image bytes), hentry⟩
    · rintro (⟨image, bytes, hload, -⟩ | ⟨-, hentry⟩)
      · exact absurd hload (hnone hok image bytes)
      · exact hentry
  · obtain ⟨written, hwritten⟩ := hwritten hok
    obtain rfl := h.place
    rw [hstores] at hwritten hfresh
    rw [length_storedOf hresults] at hfresh
    have hsettled :=
      settled_of_results hdigest hsound hplace hnamed h.loads hresults hfresh hwritten
    rw [hfiles, hsettled.entry_eq_ok_iff (keeps_storingsOf hplace hnamed h.loads)
      (sound_progressOf (isPathOf_of_mem_recordsOf hnamed) hfresh.distinct turns) hname,
      exists_call_iff hplace hnamed fun target bytes =>
        target = t.cache.directory.join ⟨name⟩ ∧ found = .file bytes]
    have hother := not_congr (exists_call_iff hplace hnamed fun target _ =>
      target = t.cache.directory.join ⟨name⟩)
    simp only [not_exists, not_and] at hother
    simp only [ne_eq, hother]

/-- A run that succeeds adds one file for each digest and ending of an image that is missing. -/
theorem encard_namesIn_of_runsIn :
    (namesIn directory report.world.files \ namesIn directory world.files).encard =
      (t.missing world document program).encard := by
  have hinjective : Function.Injective fun pair : Digest × String =>
      Utf8.encode (t.cache.encoding.spell pair.1 ++ pair.2) := by
    rintro ⟨digest, ending⟩ ⟨digest', ending'⟩ hpair
    have hchars := congrArg String.toList (Utf8.encode_injective hpair)
    simp only [String.toList_append] at hchars
    obtain ⟨hspelled, hending⟩ := List.append_inj hchars
      (by rw [HashEncoding.length_spell, HashEncoding.length_spell])
    rw [HashEncoding.spell_injective (String.toList_inj.mp hspelled), String.toList_inj.mp hending]
  obtain rfl := h.place
  have hloaded {image : PlannedImage} {bytes : ByteArray}
      (hload : t.Loads world document program image bytes) :
      Path.IsFileName (Utf8.encode (t.cache.fileName bytes image.extension)) := by
    obtain ⟨path, base, -, himage⟩ := hload.planned
    exact t.cache.isFileName_fileName bytes (slash_notMem_of_planOf himage)
  rw [← hinjective.encard_image]
  congr 1
  ext name
  constructor
  · rintro ⟨⟨hname, found, hentry⟩, hnew⟩
    rcases (entry_eq_ok_iff_of_runsIn hdigest h hsound hok hfresh hname).mp hentry with
      ⟨image, bytes, hload, hpath, -⟩ | ⟨-, hbefore⟩
    · refine ⟨_, ⟨image, bytes, hload, rfl, fun found hfound => hnew ⟨hname, found, ?_⟩⟩, ?_⟩
      · rw [← hpath]
        exact hfound
      · exact Path.eq_of_join_eq (hloaded hload) hname hpath
    · exact absurd ⟨hname, found, hbefore⟩ hnew
  · rintro ⟨-, ⟨image, bytes, hload, rfl, hnone⟩, rfl⟩
    refine ⟨⟨hloaded hload, .file bytes, ?_⟩, fun ⟨_, found, hfound⟩ => hnone found hfound⟩
    exact (entry_eq_ok_iff_of_runsIn hdigest h hsound hok hfresh (hloaded hload)).mpr
      (.inl ⟨image, bytes, hload, rfl, rfl⟩)

theorem entry_tempPath_of_runsIn {i : Nat} (hi : i < report.stores.length) (found : Entry) :
    report.world.files.entry (t.cache.tempPath (draws.temps i)) ≠ .ok found := by
  intro hentry
  obtain rfl := h.place
  have hname := Cache.isFileName_tempName (draws.temps i)
  rcases (entry_eq_ok_iff_of_runsIn hdigest h hsound hok hfresh hname).mp hentry with
    ⟨image, bytes, hload, hpath, -⟩ | ⟨-, hbefore⟩
  · obtain ⟨path, base, -, himage⟩ := hload.planned
    exact t.cache.fileName_ne_tempName bytes image.extension (draws.temps i)
      (Utf8.encode_injective (Path.eq_of_join_eq
        (t.cache.isFileName_fileName bytes (slash_notMem_of_planOf himage)) hname hpath))
  · obtain ⟨place, hplace, hfound⟩ := FileSystem.entry_eq_ok_iff.mp hbefore
    rw [hfresh.unused i hi place hplace] at hfound
    cases hfound

end

/-! ### Histories -/

theorem Step.isSound (hdigest : known.InjOn Sha256.digest) {before after : FileSystem}
    (hstep : Step directory known before after) (h : Cache.IsSound directory known before) :
    Cache.IsSound directory known after := by
  cases hstep with
  | run hrun => exact isSound_of_runsIn hdigest hrun h
  | elsewhere huntouched =>
    rintro c rfl bytes hbytes reference found hentry
    exact h c rfl bytes hbytes reference found
      (huntouched _ found (c.isFileName_fileName_extension bytes reference) hentry)

/-- A sound cache directory stays sound in every history of runs, whatever their documents, worlds
and options are, in whatever turns their stores take their steps, and however each of them ends;
the run that is computed is one of these runs. After a run that succeeds the directory holds the
images of its document and what it held under every other name; there are as many new files as there
are different digests and endings of images that were not there before; and none of the files that
were written first is left, as far as their names were new. It is taken for granted that the byte
strings that the directory is sound about, those of all images among them, are told apart by their
digests, and that nobody else puts anything into the directory. -/
theorem cache_stays_sound (hdigest : known.InjOn Sha256.digest) {start : FileSystem}
    (hstart : Cache.IsSound directory known start) :
    (∀ t draws world document program, ∃ turns,
      runInTurns t draws turns world document program = run t draws world document program) ∧
    (∀ after, Relation.ReflTransGen (Step directory known) start after →
      Cache.IsSound directory known after) ∧
    ∀ t draws turns world document program report,
      Relation.ReflTransGen (Step directory known) start world.files →
      RunsIn directory known t draws turns world document program report →
      report.result = .ok () →
      FreshTemps t.cache world.files draws.temps report.stores.length →
      (∀ name found, Path.IsFileName name →
        (report.world.files.entry (directory.join ⟨name⟩) = .ok found ↔
          (∃ image bytes, t.Loads world document program image bytes ∧
            t.cache.pathFor bytes image.extension = directory.join ⟨name⟩ ∧
            found = .file bytes) ∨
          (∀ image bytes, t.Loads world document program image bytes →
            t.cache.pathFor bytes image.extension ≠ directory.join ⟨name⟩) ∧
            world.files.entry (directory.join ⟨name⟩) = .ok found)) ∧
      (namesIn directory report.world.files \ namesIn directory world.files).encard =
        (t.missing world document program).encard ∧
      ∀ i < report.stores.length, ∀ found,
        report.world.files.entry (t.cache.tempPath (draws.temps i)) ≠ .ok found := by
  have hhistory : ∀ after, Relation.ReflTransGen (Step directory known) start after →
      Cache.IsSound directory known after := by
    intro after hafter
    induction hafter with
    | refl => exact hstart
    | tail _ hstep ih => exact hstep.isSound hdigest ih
  refine ⟨exists_runInTurns_eq, hhistory,
    fun t draws turns world document program report hbefore hrun hok hfresh => ?_⟩
  have hsound := hhistory _ hbefore
  exact ⟨fun name found hname => entry_eq_ok_iff_of_runsIn hdigest hrun hsound hok hfresh hname,
    encard_namesIn_of_runsIn hdigest hrun hsound hok hfresh,
    fun i hi found => entry_tempPath_of_runsIn hdigest hrun hsound hok hfresh hi found⟩

theorem isSound_withImage : Cache.IsSound (.ofText "/c") known World.withImage.files := by
  rintro c - bytes - reference found hentry
  obtain ⟨place, hplace, hfound⟩ := FileSystem.entry_eq_ok_iff.mp hentry
  have hlast := getLast?_of_locate_join (c.isFileName_fileName_extension bytes reference) hplace
  -- No name in this world is as long as a content address.
  have hlong :
      43 ≤ ((c.fileName bytes (extension reference)).toList.takeWhile (· ≠ '.')).length := by
    rw [c.takeWhile_fileName, contentHash, HashEncoding.length_spell]
    cases c.encoding <;> decide
  have hplaces : place = [] ∨ place = ["c"].map Utf8.encode ∨ place = ["p"].map Utf8.encode ∨
      place = ["p", "logo.png"].map Utf8.encode := by
    by_contra hother
    simp only [not_or] at hother
    obtain ⟨hroot, hc, hp, hlogo⟩ := hother
    rw [entryAt?, if_neg hroot, World.withImage, List.lookup_cons, beq_false_of_ne hc,
      List.lookup_cons, beq_false_of_ne hp, List.lookup_cons, beq_false_of_ne hlogo] at hfound
    cases hfound
  rcases hplaces with rfl | rfl | rfl | rfl
  · cases hlast
  all_goals
    rw [← Utf8.encode_injective (Option.some.inj hlast)] at hlong
    exact absurd hlong (by decide)

theorem freshTemps_withImage {count : Nat} (hcount : count ≤ 1) :
    FreshTemps (offline "/c" 'j').cache World.withImage.files Draws.counted.temps count := by
  have hfree : (match World.withImage.files.locate
      ((offline "/c" 'j').cache.tempPath (Draws.counted.temps 0)) with
        | .ok place => (World.withImage.files.entryAt? place).isNone
        | .error _ => true) = true := by
    decide +kernel
  constructor
  · rcases Nat.le_one_iff_eq_zero_or_eq_one.mp hcount with rfl | rfl <;> decide
  · intro i hi place hplace
    obtain rfl : i = 0 := by omega
    rw [hplace] at hfree
    exact Option.isNone_iff_eq_none.mp hfree

/-- A document that is read beside the image loads that image and nothing else. -/
theorem loads_nestedImages_iff {image : PlannedImage} {bytes : ByteArray} :
    (offline "/c" 'j').Loads .withImage (.ofPath (.ofText "/p/index.md")) .nestedImages image
        bytes ↔
      image = ⟨"logo.png", .local (.ofText "/p/logo.png"), ".png"⟩ ∧ bytes = ⟨#[1]⟩ := by
  have hresolved : ((offline "/c" 'j').resolve .withImage
      ⟨"logo.png", .local (.ofText "/p/logo.png"), ".png"⟩).result = some (.ok ⟨#[1]⟩) := by
    decide +kernel
  constructor
  · rintro ⟨⟨path, base, hplace, himage⟩, hbytes⟩
    obtain ⟨rfl, rfl⟩ := Prod.mk.inj (Except.ok.inj (placeOf_withImage.symm.trans hplace))
    rw [images_nestedImages, List.mem_singleton] at himage
    rw [himage, hresolved] at hbytes
    exact ⟨himage, (Except.ok.inj (Option.some.inj hbytes)).symm⟩
  · rintro ⟨rfl, rfl⟩
    refine ⟨⟨_, _, placeOf_withImage, ?_⟩, hresolved⟩
    rw [images_nestedImages]
    exact List.mem_singleton_self _

/-- A cache that is empty at first holds the one image of a document after a run, and it is still
sound about its bytes. -/
theorem cache_stays_sound_nested :
    ∃ turns report, runInTurns (offline "/c" 'j') .counted turns .withImage
        (.ofPath (.ofText "/p/index.md")) .nestedImages = some report ∧ report.result = .ok () ∧
      Cache.IsSound (.ofText "/c") {⟨#[1]⟩} report.world.files ∧
      report.world.files.entry ((offline "/c" 'j').cache.pathFor ⟨#[1]⟩ ".png") =
        .ok (.file ⟨#[1]⟩) := by
  obtain ⟨turns, report, hturns, -, hok⟩ := exists_of_succeeds succeeds_nestedImages
  have hcount : report.stores.length ≤ 1 := by
    have hle := length_stores_le hturns placeOf_withImage
    rwa [images_nestedImages] at hle
  have hfresh := freshTemps_withImage hcount
  have hruns : RunsIn (.ofText "/c") {⟨#[1]⟩} (offline "/c" 'j') .counted turns .withImage
      (.ofPath (.ofText "/p/index.md")) .nestedImages report :=
    ⟨rfl, hturns, fun _ _ hload => (loads_nestedImages_iff.mp hload).2, hfresh.distinct⟩
  obtain ⟨-, hhistory, hafter⟩ := cache_stays_sound (Set.injOn_singleton _ _) isSound_withImage
  obtain ⟨hentries, -, -⟩ := hafter _ _ _ _ _ _ report .refl hruns hok hfresh
  refine ⟨turns, report, hturns, hok, hhistory _ (.single (.run hruns)), ?_⟩
  refine (hentries (Utf8.encode ((offline "/c" 'j').cache.fileName ⟨#[1]⟩ ".png")) _
    ((offline "/c" 'j').cache.isFileName_fileName _ (by decide))).mpr (.inl ?_)
  exact ⟨_, ⟨#[1]⟩, loads_nestedImages_iff.mpr ⟨rfl, rfl⟩, rfl, rfl⟩

end ImageImports.Transform
