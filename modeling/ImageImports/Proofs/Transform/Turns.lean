import ImageImports.Proofs.Cache.OneByOne
import ImageImports.Proofs.Transform.Records

/-!
# Runs whose stores take turns

The stores of a run are on their way at one time, so their steps may come in any order, and a step
may fail for a reason that the files do not tell. A run is told in full by the turns that its
stores take. To finish one store after another is one way to take turns, and a run that does so is
the one that is computed.

## Main definitions

* `Transform.storeInTurns`: the stores of some records, whose steps come in given turns.
* `Transform.runInTurns`: the run for one document with such stores.
* `Transform.EndsInTurns`: the five ways in which such a run may end, each with its report.

## Main results

* `Transform.runInTurns_oneByOne`, `Transform.exists_runInTurns_eq`: the run that is computed is one
  of these runs.
* `Transform.endsInTurns_of_runInTurns`: every run with a report ends in one of the five ways.
* `Transform.cases_of_ok`: the two ways in which a run may succeed.
-/

namespace ImageImports.Transform

/-! ### Runs -/

/-- The stores of some records before their first step. -/
def storingsOf (cache : Cache) (temps : Nat → Uuid) (records : List Record) : List Cache.Storing :=
  records.mapIdx fun i record => cache.storing record.path record.bytes (temps i)

/-- The results of the stores of some records. An error tells the path of its record. -/
def storedOf (records : List Record) (results : List (Except FileError Bool)) :
    List (Except TransformError Bool) :=
  records.zipWith (fun record result => result.mapError (.writeFailed record.path)) results

/-- The stores of some records after their turns. -/
def progressOf (cache : Cache) (files : FileSystem) (temps : Nat → Uuid) (turns : List Cache.Turn)
    (records : List Record) : Cache.Progress :=
  Cache.Progress.turns cache.skipExisting ⟨storingsOf cache temps records, files⟩ turns

/-- Stores all images, whose steps come in given turns, until all stores have returned. -/
def storeInTurns (cache : Cache) (files : FileSystem) (temps : Nat → Uuid)
    (turns : List Cache.Turn) (records : List Record) :
    Option (FileSystem × List (Except TransformError Bool)) :=
  let p := progressOf cache files temps turns records
  p.results?.map fun results => (p.files, storedOf records results)

/-- Names and stores images that are resolved, and goes on to rewrite the program. -/
def keepInTurns (t : Transform) (draws : Draws) (turns : List Cache.Turn)
    (names : Call.FactoryNames) (plan : Plan) (contents : List ByteArray) (report : Report) :
    Option Report :=
  let supply := NameSupply.ofProgram t.identifiers draws.names report.program
  (supply.take? contents.length).bind fun locals =>
    let records := recordsOf t.cache plan.images locals contents
    (storeInTurns t.cache report.world.files draws.temps turns records).map fun (files, stores) =>
      let report := { report with world := { report.world with files := files }, stores := stores }
      match firstError stores with
      | .error e => { report with result := .error e }
      | .ok _ => rewrite names plan records report

/-- The run for one document, whose stores take given turns. There is no report if a store has not
returned after these turns. -/
def runInTurns (t : Transform) (draws : Draws) (turns : List Cache.Turn) (world : World)
    (document : Document) (program : Tree) : Option Report :=
  match placeOf world document with
  | .error e => some { Report.start document world program with result := .error e }
  | .ok (path, base) =>
    let plan := t.planOf program base
    let begun := Report.begun world document program path
    if plan.isEmpty then some begun
    else
      let resolutions := t.resolutionsOf world plan
      ((resolutions.map Prod.snd).mapM Resolution.result).bind
        fun results =>
          let report := begun.withResolutions resolutions
          match firstError results with
          | .error e => some { report with result := .error e }
          | .ok contents =>
            keepInTurns t draws turns (t.factoryNames program) plan contents report

/-! ### Stores one after another -/

theorem storingsOf_cons (cache : Cache) (temps : Nat → Uuid) (record : Record)
    (rest : List Record) : storingsOf cache temps (record :: rest) =
      cache.storing record.path record.bytes (temps 0) ::
        storingsOf cache (fun n => temps (n + 1)) rest :=
  List.mapIdx_cons

/-- To store one image after another is to take turns one after another. -/
theorem turns_oneByOne (cache : Cache) (records : List Record) (temps : Nat → Uuid)
    (files : FileSystem) (done : List Cache.Storing) :
    ∃ last results, last.map (fun s : Cache.Storing => s.stage.result?) = results.map some ∧
      Cache.Progress.turns cache.skipExisting ⟨done ++ storingsOf cache temps records, files⟩
        (Cache.Turn.oneByOne done.length records.length) =
          ⟨done ++ last, (storeAll cache files temps records).1⟩ ∧
      storedOf records results = (storeAll cache files temps records).2 := by
  induction records generalizing temps files done with
  | nil => exact ⟨[], [], rfl, rfl, rfl⟩
  | cons record rest ih =>
    have hfirst : (done ++ storingsOf cache temps (record :: rest))[done.length]? =
        some (cache.storing record.path record.bytes (temps 0)) := by
      rw [storingsOf_cons, List.getElem?_append_right (Nat.le_refl _), Nat.sub_self,
        List.getElem?_cons_zero]
    obtain ⟨first, hstage, hturns⟩ := Cache.Progress.turns_replicate cache.skipExisting
      (p := ⟨done ++ storingsOf cache temps (record :: rest), files⟩) hfirst (Nat.le_refl 5)
    obtain ⟨last, results, hlast, hrest, hstored⟩ := ih (fun n => temps (n + 1))
      (cache.store record.path record.bytes (temps 0) files).1 (done ++ [first])
    refine ⟨first :: last,
      ((cache.storing record.path record.bytes (temps 0)).finish cache.skipExisting files).2 ::
        results, ?_, ?_, ?_⟩
    · rw [List.map_cons, List.map_cons, hlast, hstage, Cache.Stage.result?]
    · have hset : (done ++ storingsOf cache temps (record :: rest)).set done.length first =
          done ++ [first] ++ storingsOf cache (fun n => temps (n + 1)) rest := by
        rw [storingsOf_cons, List.set_append_right _ _ (Nat.le_refl _), Nat.sub_self,
          List.set_cons_zero, List.append_assoc, List.singleton_append]
      rw [hset] at hturns
      rw [Cache.Turn.oneByOne, List.length_cons, List.range'_succ, List.flatMap_cons,
        Cache.Progress.turns_append, hturns]
      rw [List.length_append, List.length_singleton] at hrest
      exact hrest.trans (by rw [List.append_assoc, List.singleton_append]; rfl)
    · rw [storedOf, List.zipWith_cons_cons, ← storedOf, hstored]
      rfl

theorem storeInTurns_oneByOne (cache : Cache) (files : FileSystem) (temps : Nat → Uuid)
    (records : List Record) :
    storeInTurns cache files temps (Cache.Turn.oneByOne 0 records.length) records =
      some (storeAll cache files temps records) := by
  obtain ⟨last, results, hlast, hturns, hstored⟩ := turns_oneByOne cache records temps files []
  have hprogress : progressOf cache files temps (Cache.Turn.oneByOne 0 records.length) records =
      ⟨last, (storeAll cache files temps records).1⟩ := hturns
  rw [storeInTurns, hprogress, Cache.Progress.results?, mapM_eq_some_iff.mpr hlast,
    Option.map_some, hstored]

variable {t : Transform} {draws : Draws} {world : World} {document : Document} {program : Tree}

theorem keepInTurns_oneByOne {names : Call.FactoryNames} {plan : Plan}
    {contents : List ByteArray} (hcontents : contents.length = plan.images.length)
    (report : Report) :
    keepInTurns t draws (Cache.Turn.oneByOne 0 plan.images.length) names plan contents report =
      keep t draws names plan contents report := by
  rw [keepInTurns, keep]
  dsimp only
  cases hlocals : (NameSupply.ofProgram t.identifiers draws.names report.program).take?
      contents.length with
  | none => rfl
  | some locals =>
    have hlength : (recordsOf t.cache plan.images locals contents).length = plan.images.length :=
      length_recordsOf t.cache ((NameSupply.length_take? hlocals).trans hcontents) hcontents
    have hstored := storeInTurns_oneByOne t.cache report.world.files draws.temps
      (recordsOf t.cache plan.images locals contents)
    rw [hlength] at hstored
    exact congrArg (Option.map _) hstored

/-- A program without images is left as it is, and so are the files. -/
theorem runInTurns_of_images_nil {turns : List Cache.Turn} {path base : Path}
    (hplace : placeOf world document = .ok (path, base))
    (hplan : (t.planOf program base).images = []) :
    runInTurns t draws turns world document program =
      some (Report.begun world document program path) := by
  rw [runInTurns, hplace]
  exact if_pos (by simp [Plan.isEmpty, hplan])

/-- The run that is computed is the run whose stores take turns one after another. -/
theorem runInTurns_oneByOne {path base : Path}
    (hplace : placeOf world document = .ok (path, base)) :
    runInTurns t draws (Cache.Turn.oneByOne 0 (t.planOf program base).images.length) world document
      program = run t draws world document program := by
  rw [runInTurns, run, hplace]
  change (if (t.planOf program base).isEmpty then _ else _) =
    if (t.planOf program base).isEmpty then _
    else resolveAll t draws (t.factoryNames program) (t.planOf program base)
      (Report.begun world document program path)
  congr 1
  rw [resolveAll]
  change Option.bind (((t.resolutionsOf world (t.planOf program base)).map Prod.snd).mapM
      Resolution.result) _ =
    Option.bind (((t.resolutionsOf world (t.planOf program base)).map Prod.snd).mapM
      Resolution.result) _
  cases hresults : ((t.resolutionsOf world (t.planOf program base)).map Prod.snd).mapM
      Resolution.result with
  | none => rfl
  | some results =>
    rw [Option.bind_some, Option.bind_some]
    cases hcontents : firstError results with
    | error e => rfl
    | ok contents =>
      have hmap := congrArg List.length (mapM_eq_some_iff.mp hresults)
      rw [firstError_eq_ok_iff.mp hcontents] at hmap
      exact keepInTurns_oneByOne (by simpa [resolutionsOf] using hmap.symm) _

variable (t draws world document program) in
/-- The run that is computed is a run whose stores take turns of which none is made to fail. -/
theorem exists_faultless_runInTurns_eq :
    ∃ turns : List Cache.Turn, (∀ turn ∈ turns, turn.fault = none) ∧
      runInTurns t draws turns world document program = run t draws world document program := by
  cases hplace : placeOf world document with
  | error e =>
    refine ⟨[], List.forall_mem_nil _, ?_⟩
    rw [runInTurns, run, hplace]
  | ok found =>
    exact ⟨_, fun _ => Cache.Turn.fault_of_mem_oneByOne, runInTurns_oneByOne hplace⟩

variable (t draws world document program) in
/-- The run that is computed is one of the runs whose stores take turns. -/
theorem exists_runInTurns_eq :
    ∃ turns, runInTurns t draws turns world document program =
      run t draws world document program := by
  obtain ⟨turns, -, hturns⟩ := exists_faultless_runInTurns_eq t draws world document program
  exact ⟨turns, hturns⟩

/-- A run that succeeds has a report without an error, and its stores take some turns. -/
theorem exists_of_succeeds (h : succeeds t draws world document program = true) :
    ∃ turns report, runInTurns t draws turns world document program = some report ∧
      run t draws world document program = some report ∧ report.result = .ok () := by
  obtain ⟨turns, hturns⟩ := exists_runInTurns_eq t draws world document program
  obtain ⟨report, hrun, hok⟩ := (Option.any_eq_true _ _).mp h
  refine ⟨turns, report, hturns.trans hrun, hrun, ?_⟩
  cases hresult : report.result with
  | error e => simp [hresult, Except.isOk, Except.toBool] at hok
  | ok value => rfl

/-! ### How such runs end -/

variable (t draws world document program) in
/-- The ways in which a run may end whose stores take turns: without a place for its document,
without an image, with an image that cannot be resolved, with a store that fails, or with a
rewritten program. -/
inductive EndsInTurns (turns : List Cache.Turn) : Report → Prop
  | misplaced (e : TransformError) (hplace : placeOf world document = .error e) :
      EndsInTurns turns { Report.start document world program with result := .error e }
  | unchanged (path base : Path) (hplace : placeOf world document = .ok (path, base))
      (hplan : (t.planOf program base).images = []) :
      EndsInTurns turns (Report.begun world document program path)
  | unresolved (path base : Path) (hplace : placeOf world document = .ok (path, base))
      (results : List (Except TransformError ByteArray))
      (hresults : ((t.planOf program base).images.map fun image =>
        (t.resolve world image).result) = results.map some)
      (e : TransformError) (herror : firstError results = .error e) :
      EndsInTurns turns { (Report.begun world document program path).withResolutions
        (t.resolutionsOf world (t.planOf program base)) with result := .error e }
  | unstored (path base : Path) (hplace : placeOf world document = .ok (path, base))
      (contents : List ByteArray) (locals : List String)
      (hnamed : t.Named draws world program (t.planOf program base) contents locals)
      (records : List Record)
      (hrecords : records = recordsOf t.cache (t.planOf program base).images locals contents)
      (p : Cache.Progress) (hp : p = progressOf t.cache world.files draws.temps turns records)
      (results : List (Except FileError Bool)) (hresults : p.results? = some results)
      (e : TransformError) (herror : firstError (storedOf records results) = .error e) :
      EndsInTurns turns { Report.kept t world document program (t.planOf program base) path p.files
        (storedOf records results) with result := .error e }
  | rewritten (path base : Path) (hplace : placeOf world document = .ok (path, base))
      (hplan : (t.planOf program base).images ≠ [])
      (contents : List ByteArray) (locals : List String)
      (hnamed : t.Named draws world program (t.planOf program base) contents locals)
      (records : List Record)
      (hrecords : records = recordsOf t.cache (t.planOf program base).images locals contents)
      (p : Cache.Progress) (hp : p = progressOf t.cache world.files draws.temps turns records)
      (results : List (Except FileError Bool)) (hresults : p.results? = some results)
      (written : List Bool) (hwritten : storedOf records results = written.map .ok) :
      EndsInTurns turns (Report.finished t world document program (t.planOf program base) path
        contents locals p.files (storedOf records results))

/-- Every run with a report ends in one of the five ways. -/
theorem endsInTurns_of_runInTurns {turns : List Cache.Turn} {report : Report}
    (h : runInTurns t draws turns world document program = some report) :
    EndsInTurns t draws world document program turns report := by
  rw [runInTurns] at h
  split at h
  next e hplace =>
    obtain rfl := Option.some.inj h
    exact .misplaced e hplace
  next path base hplace =>
    dsimp only at h
    split at h
    next hplan =>
      obtain rfl := Option.some.inj h
      exact .unchanged path base hplace (List.isEmpty_iff.mp hplan)
    next hplan =>
      obtain ⟨results, hresults, h⟩ := Option.bind_eq_some_iff.mp h
      have hmap := mapM_eq_some_iff.mp hresults
      rw [resolutionsOf, List.map_map, List.map_map] at hmap
      split at h
      next e herror =>
        obtain rfl := Option.some.inj h
        exact .unresolved path base hplace results hmap e herror
      next contents hcontents =>
        rw [firstError_eq_ok_iff] at hcontents
        subst hcontents
        rw [List.map_map] at hmap
        obtain ⟨locals, hlocals, h⟩ := Option.bind_eq_some_iff.mp h
        have hlength : contents.length = (t.planOf program base).images.length := by
          simpa using (congrArg List.length hmap).symm
        rw [hlength] at hlocals
        have hnamed : t.Named draws world program (t.planOf program base) contents locals :=
          ⟨hmap, hlocals⟩
        obtain ⟨⟨files, stores⟩, hstores, h⟩ := Option.map_eq_some_iff.mp h
        -- Nothing was written while the images were resolved.
        rw [show ((Report.begun world document program path).withResolutions
          (t.resolutionsOf world (t.planOf program base))).world.files = world.files from
            World.files_afterAll world _] at hstores
        obtain ⟨results, hresults, hpair⟩ := Option.map_eq_some_iff.mp hstores
        obtain ⟨rfl, rfl⟩ := Prod.mk.inj hpair
        dsimp only at h
        split at h
        next e herror =>
          subst h
          exact .unstored path base hplace contents locals hnamed _ rfl _ rfl results hresults e
            herror
        next written hwritten =>
          obtain rfl : Report.finished t world document program (t.planOf program base) path
              contents locals _ _ = report := (rewrite_kept hnamed _ _).symm.trans h
          exact .rewritten path base hplace (by simpa [Plan.isEmpty] using hplan) contents locals
            hnamed _ rfl _ rfl results hresults written (firstError_eq_ok_iff.mp hwritten)

/-- A run that succeeds finds no image and changes nothing, or it resolves, names and stores all
images and rewrites the program. -/
theorem cases_of_ok {turns : List Cache.Turn} {report : Report}
    (hrun : runInTurns t draws turns world document program = some report)
    (hok : report.result = .ok ()) :
    ∃ path base, placeOf world document = .ok (path, base) ∧
      ((t.planOf program base).images = [] ∧ report = Report.begun world document program path ∨
        (t.planOf program base).images ≠ [] ∧ ∃ contents locals records p results,
          ∃ written : List Bool,
          t.Named draws world program (t.planOf program base) contents locals ∧
          records = recordsOf t.cache (t.planOf program base).images locals contents ∧
          p = progressOf t.cache world.files draws.temps turns records ∧
          p.results? = some results ∧ storedOf records results = written.map .ok ∧
          report = Report.finished t world document program (t.planOf program base) path contents
            locals p.files (storedOf records results)) := by
  cases endsInTurns_of_runInTurns hrun with
  | misplaced e hplace => cases hok
  | unchanged path base hplace hplan => exact ⟨path, base, hplace, .inl ⟨hplan, rfl⟩⟩
  | unresolved path base hplace results hresults e herror => cases hok
  | unstored path base hplace contents locals hnamed records hrecords p hp results hresults e
      herror =>
    cases hok
  | rewritten path base hplace hplan contents locals hnamed records hrecords p hp results hresults
      written hwritten =>
    exact ⟨path, base, hplace, .inr ⟨hplan, contents, locals, records, p, results, written, hnamed,
      hrecords, hp, hresults, hwritten, rfl⟩⟩

end ImageImports.Transform
