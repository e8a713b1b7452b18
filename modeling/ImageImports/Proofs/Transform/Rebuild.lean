import ImageImports.Proofs.Transform.History

/-!
# Building again

A program is transformed, and later the same program is transformed again with the files that the
first run has left. With numbered names the second run gives the same program: it plans the same
images, they have the same bytes and paths, and the names depend on the program only. And it writes
nothing: every file that it would store is there with the right length, put there by the first run
or kept by it. This does not ask that the files which the first run found were right.

## Main definitions

* `Transform.Repeatable`: what makes the runs for a document repeatable.
* `Transform.Repeats`: what a second run has in common with the first one.
* `Transform.Rebuilt`: a second run has given what the first one gave, and has written nothing.

## Main results

* `Transform.stores_of_hasFile`: stores whose files are there keep them.
* `Transform.runInTurns_of_stored`: a run that resolves, names and stores all its images succeeds.
* `Transform.resolve_of_repeats`: images are resolved again to the bytes that they had.
* `Transform.rebuild_writes_nothing`: a second run repeats the first one.
-/

namespace ImageImports

namespace Transform

open FileSystem

variable {t : Transform} {draws : Draws} {turns : List Cache.Turn} {world : World}
  {document : Document} {program : Tree} {report : Report} {path base : Path}
  {contents : List ByteArray} {locals : List String} {cache : Cache} {temps : Nat → Uuid}
  {records : List Record} {before : FileSystem}

/-! ### Stores that find their files -/

variable (temps) in
/-- Where all files are there, stores that are not made to fail keep them, whatever turns they
take. -/
theorem stores_of_hasFile (hskip : cache.skipExisting = true)
    (hfiles : ∀ record ∈ records, before.hasFile record.path record.bytes.size = true)
    (hfaults : ∀ turn ∈ turns, turn.fault = none)
    (hall : ∀ i < records.length, i ∈ turns.map Cache.Turn.position) :
    (progressOf cache before temps turns records).results? =
        some (List.replicate records.length (.ok false)) ∧
      (progressOf cache before temps turns records).files = before := by
  have hstart : ∀ call ∈ storingsOf cache temps records, call.stage = .check := by
    intro call hcall
    obtain ⟨i, record, -, rfl⟩ := exists_of_mem_storingsOf hcall
    rfl
  have hthere : ∀ call ∈ storingsOf cache temps records,
      before.hasFile call.target call.bytes.size = true := by
    intro call hcall
    obtain ⟨i, record, hrecord, rfl⟩ := exists_of_mem_storingsOf hcall
    exact hfiles record (List.mem_of_getElem? hrecord)
  have hturns := Cache.Progress.results?_turns_of_hasFile hstart hthere hfaults
    (by rwa [length_storingsOf])
  rw [length_storingsOf] at hturns
  rw [progressOf, hskip, Cache.Progress.results?, mapM_eq_some_iff]
  exact hturns

theorem storedOf_replicate (records : List Record) :
    storedOf records (List.replicate records.length (.ok false)) =
      (List.replicate records.length false).map .ok := by
  induction records with
  | nil => rfl
  | cons record rest ih =>
    rw [List.length_cons, List.replicate_succ, List.replicate_succ, List.map_cons, ← ih]
    rfl

/-! ### Runs that rewrite -/

/-- A program is rewritten when all names are there and all stores have succeeded. -/
theorem keepInTurns_of_stored {names : Call.FactoryNames} {plan : Plan}
    (hnames : (NameSupply.ofProgram t.identifiers draws.names report.program).take?
      contents.length = some locals)
    (hrecords : records = recordsOf t.cache plan.images locals contents)
    {p : Cache.Progress}
    (hp : p = progressOf t.cache report.world.files draws.temps turns records)
    {results : List (Except FileError Bool)} (hresults : p.results? = some results)
    {written : List Bool} (hwritten : storedOf records results = written.map .ok) :
    keepInTurns t draws turns names plan contents report =
      some (rewrite names plan records { report with
        world := { report.world with files := p.files }
        stores := storedOf records results }) := by
  have hstores : storeInTurns t.cache report.world.files draws.temps turns records =
      some (p.files, storedOf records results) := by
    rw [storeInTurns, ← hp, hresults, Option.map_some]
  subst hrecords
  rw [keepInTurns]
  dsimp only
  rw [hnames, Option.bind_some, hstores, Option.map_some]
  dsimp only
  rw [firstError_eq_ok_iff.mpr hwritten]

/-- A run rewrites its program when all its images are resolved and named and all its stores have
succeeded. -/
theorem runInTurns_of_stored (hplace : placeOf world document = .ok (path, base))
    (hplan : (t.planOf program base).images ≠ [])
    (hnamed : t.Named draws world program (t.planOf program base) contents locals)
    (hrecords : records = recordsOf t.cache (t.planOf program base).images locals contents)
    {p : Cache.Progress} (hp : p = progressOf t.cache world.files draws.temps turns records)
    {results : List (Except FileError Bool)} (hresults : p.results? = some results)
    {written : List Bool} (hwritten : storedOf records results = written.map .ok) :
    runInTurns t draws turns world document program =
      some (Report.finished t world document program (t.planOf program base) path contents locals
        p.files (storedOf records results)) := by
  let resolved := (Report.begun world document program path).withResolutions
    (t.resolutionsOf world (t.planOf program base))
  have hfiles : resolved.world.files = world.files := World.files_afterAll world _
  have hnames : (NameSupply.ofProgram t.identifiers draws.names resolved.program).take?
      contents.length = some locals := by
    rw [hnamed.length_contents]
    exact hnamed.named
  have hrun : runInTurns t draws turns world document program =
      keepInTurns t draws turns (t.factoryNames program) (t.planOf program base) contents
        resolved := by
    rw [runInTurns, hplace]
    dsimp only
    rw [if_neg (by simp [Plan.isEmpty, hplan]), hnamed.mapM_result, Option.bind_some,
      firstError_eq_ok_iff.mpr rfl]
  rw [hrun, keepInTurns_of_stored hnames hrecords (hfiles ▸ hp) hresults hwritten]
  subst hrecords
  exact congrArg some (rewrite_kept hnamed _ _)

/-! ### What two runs have in common -/

variable {again : Transform} {draws' : Draws} {turns' : List Cache.Turn} {world' : World}
  {document' : Document}

variable (t world document program) in
/-- What makes the runs for a document repeatable: files that are there are kept, names are counted
up, the byte strings that the document loads are told apart by their digests, and no image is read
from the cache directory. -/
structure Repeatable : Prop where
  keeps : t.cache.skipExisting = true
  counts : t.identifiers = .counter
  digest : ∀ image bytes image' bytes', t.Loads world document program image bytes →
    t.Loads world document program image' bytes' →
      Sha256.digest bytes = Sha256.digest bytes' → bytes = bytes'
  outside : ∀ image bytes source, t.Loads world document program image bytes →
    image.source = .local source → ¬ t.cache.directory.location <+: source.location

variable (t world document program) in
/-- What a second run has in common with one that has ended: the cache, the pattern of factories and
the way to name images, the directory of the document, and the files, to which nothing has happened
between the two. What was fetched is served again, from wherever and after how many requests it
may be. -/
structure Repeats (again : Transform) (world' : World) (document' : Document) (report : Report) :
    Prop where
  cache : again.cache = t.cache
  ascii : again.ascii = t.ascii
  factoryPattern : again.factoryPattern = t.factoryPattern
  identifiers : again.identifiers = t.identifiers
  base : (placeOf world' document').map Prod.snd = (placeOf world document).map Prod.snd
  files : world'.files = report.world.files
  fetched : ∀ image bytes url, t.Loads world document program image bytes →
    image.source = .remote url → (again.resolve world' image).result = some (.ok bytes)

/-- A second run has given the program that the first one gave. It has kept every file that it
would have stored, and it has left all files as they were. -/
structure Rebuilt (first second : Report) : Prop where
  succeeds : second.result = .ok ()
  program : second.program = first.program
  stores : second.stores = List.replicate first.stores.length (.ok false)
  files : second.world.files = first.world.files

/-- The document of a second run has a place, and its references are read from the directory that
the first run has read them from. -/
theorem Repeats.exists_placeOf (h : t.Repeats world document program again world' document' report)
    (hplace : placeOf world document = .ok (path, base)) :
    ∃ path', placeOf world' document' = .ok (path', base) := by
  have hsame := h.base
  rw [hplace] at hsame
  cases hfound : placeOf world' document' with
  | error e =>
    rw [hfound] at hsame
    cases hsame
  | ok found =>
    rw [hfound] at hsame
    exact ⟨found.1, by rw [← show found.2 = base from Except.ok.inj hsame]⟩

theorem Repeats.factoryNames_eq
    (h : t.Repeats world document program again world' document' report) :
    again.factoryNames program = t.factoryNames program := by
  rw [factoryNames, h.factoryPattern, factoryNames]

theorem Repeats.planOf_eq (h : t.Repeats world document program again world' document' report)
    (base : Path) : again.planOf program base = t.planOf program base := by
  rw [planOf, h.factoryNames_eq, h.ascii, planOf]

/-- The records of a repeatable run are told apart by the digests of their bytes. -/
theorem Repeatable.digest_recordsOf (h : t.Repeatable world document program)
    (hplace : placeOf world document = .ok (path, base))
    (hnamed : t.Named draws world program (t.planOf program base) contents locals) :
    ∀ record ∈ recordsOf t.cache (t.planOf program base).images locals contents,
      ∀ other ∈ recordsOf t.cache (t.planOf program base).images locals contents,
        Sha256.digest record.bytes = Sha256.digest other.bytes → record.bytes = other.bytes := by
  intro record hmem other hother
  obtain ⟨image, himage, hbytes, -⟩ := exists_of_mem_recordsOf hnamed hmem
  obtain ⟨image', himage', hbytes', -⟩ := exists_of_mem_recordsOf hnamed hother
  exact h.digest image _ image' _ ⟨⟨path, base, hplace, himage⟩, hbytes⟩
    ⟨⟨path, base, hplace, himage'⟩, hbytes'⟩

/-- However a run ends, it leaves what is outside its cache directory. -/
theorem read_outside_of_runsIn {directory : Path} {known : Set ByteArray}
    (h : RunsIn directory known t draws turns world document program report)
    (houtside : ¬ directory.location <+: path.location) {bytes : ByteArray}
    (hread : world.files.read path = .ok bytes) : report.world.files.read path = .ok bytes := by
  obtain ⟨hfiles, -⟩ | ⟨_, _, _, _, results, _, hnamed, hfiles, hresults, hstores, -⟩ :=
    files_of_runsIn h
  · rwa [hfiles]
  · have hdistinct := h.temps
    rw [hstores, length_storedOf hresults] at hdistinct
    have hpaths := isPathOf_of_mem_recordsOf hnamed
    obtain rfl := h.place
    rw [hfiles]
    refine (sound_progressOf hpaths hdistinct turns).read_outside
      (isPathOf_of_mem_storingsOf hpaths) (fun call hcall => ?_) houtside hread
    obtain ⟨i, record, -, rfl⟩ := exists_of_mem_storingsOf hcall
    exact ⟨draws.temps i, rfl⟩

section

variable (hrepeatable : t.Repeatable world document program)
  (hrun : runInTurns t draws turns world document program = some report)
  (htemps : ((List.range report.stores.length).map draws.temps).Nodup)
  (hrepeats : t.Repeats world document program again world' document' report)

include hrepeatable hrun htemps hrepeats

/-- A second run resolves every image to the bytes that the first one resolved it to. -/
theorem resolve_of_repeats {image : PlannedImage} {bytes : ByteArray}
    (hload : t.Loads world document program image bytes) :
    (again.resolve world' image).result = some (.ok bytes) := by
  cases hsource : image.source with
  | remote url => exact hrepeats.fetched image bytes url hload hsource
  | «local» source =>
    have hobtains := obtains_of_resolve hload.resolved
    rw [hsource] at hobtains
    obtain ⟨_, _, hread⟩ := hobtains
    have hruns : RunsIn t.cache.directory
        {bytes | ∃ image, t.Loads world document program image bytes} t draws turns world document
        program report :=
      ⟨rfl, hrun, fun image _ h => ⟨image, h⟩, htemps⟩
    have hagain := read_outside_of_runsIn hruns
      (hrepeatable.outside image bytes source hload hsource) hread
    rw [resolve, hsource]
    dsimp only
    rw [readLocal, hrepeats.files, hagain]
    rfl

theorem named_of_repeats (hplace : placeOf world document = .ok (path, base))
    (hnamed : t.Named draws world program (t.planOf program base) contents locals) :
    again.Named draws' world' program (t.planOf program base) contents locals := by
  constructor
  · rw [← hnamed.resolved]
    refine List.map_congr_left fun image himage => ?_
    have hmem := List.mem_map_of_mem himage (f := fun image => (t.resolve world image).result)
    rw [hnamed.resolved] at hmem
    obtain ⟨bytes, -, hbytes⟩ := List.mem_map.mp hmem
    rw [← hbytes]
    exact resolve_of_repeats hrepeatable hrun htemps hrepeats
      ⟨⟨path, base, hplace, himage⟩, hbytes.symm⟩
  · have hnames := hnamed.named
    rw [hrepeatable.counts] at hnames
    rw [hrepeats.identifiers, hrepeatable.counts, ← hnames]
    exact NameSupply.take?_counter _ _ _ _ _

/-- A second run whose stores all take turns, none of which is made to fail, repeats the first
one. -/
theorem rebuilt_of_turns (hok : report.result = .ok ())
    (hfaults : ∀ turn ∈ turns', turn.fault = none)
    (hall : ∀ i < report.stores.length, i ∈ turns'.map Cache.Turn.position) :
    ∃ report', runInTurns again draws' turns' world' document' program = some report' ∧
      Rebuilt report report' := by
  obtain ⟨path, base, hplace, hends⟩ := cases_of_ok hrun hok
  obtain ⟨path', hplace'⟩ := hrepeats.exists_placeOf hplace
  have hplan : again.planOf program base = t.planOf program base := hrepeats.planOf_eq base
  rcases hends with ⟨himages, rfl⟩ | ⟨himages, contents, locals, records, p, results, written,
    hnamed, hrecords, rfl, hresults, hwritten, rfl⟩
  · rw [← hplan] at himages
    exact ⟨_, runInTurns_of_images_nil hplace' himages, rfl, rfl, rfl, hrepeats.files⟩
  · have hpaths : ∀ record ∈ records, t.cache.IsPathOf record.path record.bytes := by
      rw [hrecords]
      exact isPathOf_of_mem_recordsOf hnamed
    have hdigest : ∀ record ∈ records, ∀ other ∈ records,
        Sha256.digest record.bytes = Sha256.digest other.bytes → record.bytes = other.bytes := by
      rw [hrecords]
      exact hrepeatable.digest_recordsOf hplace hnamed
    have hcount : (storedOf records results).length = records.length := length_storedOf hresults
    have hthere : ∀ record ∈ records,
        (progressOf t.cache world.files draws.temps turns records).files.hasFile record.path
          record.bytes.size = true := by
      intro record hmem
      obtain ⟨i, hcall⟩ := exists_storing_of_mem t.cache draws.temps hmem
      refine hasFile_of_results hpaths (hcount ▸ htemps) hresults hwritten hcall
        fun other hother hsame => ?_
      obtain ⟨j, last, hlast, rfl⟩ := exists_of_mem_storingsOf hother
      exact hdigest last (List.mem_of_getElem? hlast) record hmem hsame
    have hkept := stores_of_hasFile draws'.temps hrepeatable.keeps hthere hfaults
      (hcount ▸ hall)
    have hfiles : world'.files =
        (progressOf t.cache world.files draws.temps turns records).files := hrepeats.files
    rw [← hfiles, ← hrepeats.cache] at hkept
    have hnamed' : again.Named draws' world' program (again.planOf program base) contents
        locals := by
      rw [hplan]
      exact named_of_repeats hrepeatable hrun htemps hrepeats hplace hnamed
    rw [← hplan] at himages
    have hrecords' : records =
        recordsOf again.cache (again.planOf program base).images locals contents := by
      rw [hrecords, hplan, hrepeats.cache]
    refine ⟨_, runInTurns_of_stored hplace' himages hnamed' hrecords' rfl hkept.1
      (storedOf_replicate records), rfl, ?_, ?_, ?_⟩
    · change (again.withImports program _ contents locals).1 =
        (t.withImports program _ contents locals).1
      rw [withImports, withImports, rewrittenTree, rewrittenTree, hrepeats.factoryNames_eq,
        hplan, hrepeats.cache]
    · change storedOf records _ = List.replicate (storedOf records results).length _
      rw [storedOf_replicate, hcount, List.map_replicate]
    · exact hkept.2.trans hrepeats.files

/-- The second run that is computed repeats the first one. -/
theorem rebuilt_of_run (hok : report.result = .ok ()) :
    ∃ report', run again draws' world' document' program = some report' ∧
      Rebuilt report report' := by
  obtain ⟨path, base, hplace, -⟩ := cases_of_ok hrun hok
  obtain ⟨path', hplace'⟩ := hrepeats.exists_placeOf hplace
  rw [← runInTurns_oneByOne hplace', hrepeats.planOf_eq base]
  refine rebuilt_of_turns hrepeatable hrun htemps hrepeats hok
    (fun turn hmem => Cache.Turn.fault_of_mem_oneByOne hmem) fun i hi => ?_
  exact Cache.Turn.mem_map_position_oneByOne (hi.trans_le (length_stores_le hrun hplace))

end

/-- To build again gives the same program and writes nothing. Take any run that has succeeded, in
whatever turns its stores took their steps, and whether the files that it found were right or not;
the run that is computed is one of these. A run of the same program on the files that it left then
succeeds, in whatever turns its stores take theirs as long as none is made to fail, and so does the
run that is computed: the program is the same, every store has kept a file, and all files are as
they were. -/
theorem rebuild_writes_nothing (draws : Draws) (hrepeatable : t.Repeatable world document program) :
    (∃ turns, runInTurns t draws turns world document program =
      run t draws world document program) ∧
    ∀ turns report, runInTurns t draws turns world document program = some report →
      report.result = .ok () →
      ((List.range report.stores.length).map draws.temps).Nodup →
      ∀ again world' document', t.Repeats world document program again world' document' report →
        ∀ draws',
          (∀ turns' : List Cache.Turn, (∀ turn ∈ turns', turn.fault = none) →
            (∀ i < report.stores.length, i ∈ turns'.map Cache.Turn.position) →
            ∃ report', runInTurns again draws' turns' world' document' program = some report' ∧
              Rebuilt report report') ∧
          ∃ report', run again draws' world' document' program = some report' ∧
            Rebuilt report report' :=
  ⟨exists_runInTurns_eq t draws world document program,
    fun _ _ hrun hok htemps _ _ _ hrepeats _ =>
      ⟨fun _ hfaults hall =>
        rebuilt_of_turns hrepeatable hrun htemps hrepeats hok hfaults hall,
        rebuilt_of_run hrepeatable hrun htemps hrepeats hok⟩⟩

/-- A document is built twice, and the second time its image is found in the cache. -/
theorem rebuild_writes_nothing_nested :
    ∃ report report', run (offline "/c" 'j') .counted .withImage (.ofPath (.ofText "/p/index.md"))
        .nestedImages = some report ∧ report.result = .ok () ∧
      run (offline "/c" 'j') .counted report.world (.ofPath (.ofText "/p/index.md")) .nestedImages =
        some report' ∧ Rebuilt report report' := by
  obtain ⟨turns, report, hturns, hrun, hok⟩ := exists_of_succeeds succeeds_nestedImages
  have hrepeatable : (offline "/c" 'j').Repeatable .withImage (.ofPath (.ofText "/p/index.md"))
      .nestedImages := by
    refine ⟨rfl, rfl, fun image bytes image' bytes' hload hload' _ => ?_,
      fun image bytes source hload hsource => ?_⟩
    · rw [(loads_nestedImages_iff.mp hload).2, (loads_nestedImages_iff.mp hload').2]
    · obtain ⟨rfl, -⟩ := loads_nestedImages_iff.mp hload
      obtain rfl := Source.local.inj hsource
      decide
  obtain ⟨-, hagain⟩ := rebuild_writes_nothing .counted hrepeatable
  have hcount : report.stores.length ≤ 1 := by
    have hle := length_stores_le hturns placeOf_withImage
    rwa [images_nestedImages] at hle
  have hrepeats : (offline "/c" 'j').Repeats .withImage (.ofPath (.ofText "/p/index.md"))
      .nestedImages (offline "/c" 'j') report.world (.ofPath (.ofText "/p/index.md")) report := by
    refine ⟨rfl, rfl, rfl, rfl, rfl, rfl, fun image bytes url hload hsource => ?_⟩
    obtain ⟨rfl, -⟩ := loads_nestedImages_iff.mp hload
    cases hsource
  obtain ⟨-, report', hrun', hrebuilt⟩ := hagain turns report hturns hok
    (freshTemps_withImage hcount).distinct _ _ _ hrepeats .counted
  exact ⟨report, report', hrun, hok, hrun', hrebuilt⟩

end Transform

end ImageImports