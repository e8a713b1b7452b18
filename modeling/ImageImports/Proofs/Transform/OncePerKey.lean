import ImageImports.Proofs.Plan.Distinct
import ImageImports.Proofs.Transform.Bindings
import Mathlib.Algebra.GroupWithZero.Nat

/-!
# One image for each key

References with one key mean one image. A run resolves each image of its plan once, so it asks for
the URL of a key once, with the retries of that fetch, however often and in whatever spellings it
is written in the document. A module gets one import for each key. Another program gets none, even
if its images were resolved.

## Main results

* `World.asked_afterAll`: how often each URL was asked for when all resolutions have ended.
* `Transform.resolutions_of_runInTurns`: the resolutions of a run.
* `Transform.exists_imports_of_runInTurns`: the imports before the body of a program.
* `Transform.images_are_resolved_once`: one image, one resolution and one import for each key.
-/

namespace ImageImports

/-- Every URL was asked for as often as the resolutions with its key asked for it. -/
theorem World.asked_afterAll (w : World) (resolutions : List (PlannedImage × Resolution))
    (url : String) : (w.afterAll resolutions).asked url = w.asked url +
      ((resolutions.filter fun r => r.1.source.key = url).map fun r => r.2.starts.length).sum := by
  induction resolutions generalizing w with
  | nil => rfl
  | cons first rest ih =>
    rw [World.afterAll, List.foldl_cons, ← World.afterAll, ih]
    by_cases hkey : first.1.source.key = url
    · subst hkey
      simp [World.after, Nat.add_assoc]
    · simp [World.after, hkey, Ne.symm hkey]

namespace Transform

variable {t : Transform} {draws : Draws} {turns : List Cache.Turn} {world : World}
  {document : Document} {program : Tree} {report : Report} {path base : Path}

/-! ### Resolutions -/

/-- A run resolves the images of its plan, and asks for nothing but what they need. -/
theorem resolutions_of_runInTurns
    (hrun : runInTurns t draws turns world document program = some report)
    (hplace : placeOf world document = .ok (path, base)) :
    report.resolutions = t.resolutionsOf world (t.planOf program base) ∧
      report.world.asked = (world.afterAll report.resolutions).asked := by
  have hfound {path' base' : Path} (h : placeOf world document = .ok (path', base')) :
      base' = base := by
    rw [hplace] at h
    exact (Prod.mk.inj (Except.ok.inj h)).2.symm
  cases endsInTurns_of_runInTurns hrun with
  | misplaced e h => rw [hplace] at h; cases h
  | unchanged path' base' h hplan =>
    obtain rfl := hfound h
    have hnone : t.resolutionsOf world (t.planOf program base') = [] := by
      rw [resolutionsOf, hplan, List.map_nil]
    exact ⟨hnone.symm, rfl⟩
  | unresolved path' base' h results hresults e herror =>
    obtain rfl := hfound h
    exact ⟨rfl, rfl⟩
  | unstored path' base' h contents locals hnamed records hrecords p hp results hresults e herror =>
    obtain rfl := hfound h
    exact ⟨rfl, rfl⟩
  | rewritten path' base' h hplan contents locals hnamed records hrecords p hp results hresults
      written hwritten =>
    obtain rfl := hfound h
    exact ⟨rfl, rfl⟩

/-- Of all resolutions one is that of an image of the plan. -/
theorem filter_resolutionsOf {references : List String} {plan : Plan}
    (h : Plan.Deduplicates t.ascii base references plan) {image : PlannedImage}
    (hmem : image ∈ plan.images) :
    (t.resolutionsOf world plan).filter (fun r => r.1.source.key = image.source.key) =
      [(image, t.resolve world image)] := by
  have hnodup : ((t.resolutionsOf world plan).map fun r => r.1.source.key).Nodup := by
    rw [resolutionsOf, List.map_map]
    exact h.keys
  have hpair : (image, t.resolve world image) ∈ t.resolutionsOf world plan :=
    List.mem_map_of_mem (f := fun image => (image, t.resolve world image)) hmem
  exact filter_eq_singleton hnodup hpair

/-- No resolution has a key that no reference has. -/
theorem filter_resolutionsOf_eq_nil {references : List String} {plan : Plan}
    (h : Plan.Deduplicates t.ascii base references plan) {key : String}
    (hkey : ∀ reference ∈ references, Plan.keyOf t.ascii base reference ≠ key) :
    (t.resolutionsOf world plan).filter (fun r => r.1.source.key = key) = [] := by
  rw [List.filter_eq_nil_iff]
  intro r hr
  obtain ⟨image, hmem, rfl⟩ := List.mem_map.mp hr
  obtain ⟨reference, href, hsame⟩ := (h.exists_image_iff _).mp ⟨image, hmem, rfl⟩
  simpa using fun heq => hkey reference href (hsame.trans heq)

/-! ### Imports -/

/-- A run that succeeds puts one import for each image before the body of a module, in the order of
the images, and none before that of another program. -/
theorem exists_imports_of_runInTurns {kind : String} {body : List Tree}
    (hprogram : program.IsProgram kind body)
    (hrun : runInTurns t draws turns world document program = some report)
    (hok : report.result = .ok ())
    (hplace : placeOf world document = .ok (path, base)) :
    ∃ (imports : List Import) (rest : List Tree),
      report.program.listField "body" = imports.map Import.declaration ++ rest ∧
        rest.length = body.length ∧ imports.length = t.importCount program base ∧
        (program.isKind "Module" = true → ∃ contents locals,
          t.Named draws world program (t.planOf program base) contents locals ∧
          imports = (recordsOf t.cache (t.planOf program base).images locals contents).map
            Record.toImport) := by
  obtain ⟨path', base', hplace', hends⟩ := cases_of_ok hrun hok
  obtain ⟨rfl, rfl⟩ := Prod.mk.inj (Except.ok.inj (hplace.symm.trans hplace'))
  rcases hends with ⟨hplan, rfl⟩ | ⟨hplan, contents, locals, _, _, _, _, hnamed, -, -, -, -, rfl⟩
  · refine ⟨[], body, hprogram.hasBody.listField_body, rfl, ?_,
      fun _ => ⟨[], [], named_nil hplan, by rw [hplan]; rfl⟩⟩
    rw [importCount, hplan]
    exact (ite_self 0).symm
  · by_cases hkind : program.isKind "Module" = true
    · have hmodule : program.IsProgram "Module" body := ⟨hkind, hprogram.hasBody, hprogram.plain⟩
      obtain ⟨rest, hbody, hrest⟩ := (rewritten_of_named hmodule hnamed hplan).body
      refine ⟨(recordsOf t.cache (t.planOf program base).images locals contents).map
        Record.toImport, rest, ?_, hrest, ?_, fun _ => ⟨contents, locals, hnamed, rfl⟩⟩
      · rw [Report.program_finished, hbody, List.map_map]
        rfl
      · rw [importCount, if_pos hkind, List.length_map,
          length_recordsOf t.cache hnamed.length_locals hnamed.length_contents]
    · have hkind := Bool.eq_false_iff.mpr hkind
      obtain ⟨rest, hbody, hrest⟩ := exists_hasBody_rewrittenTree (t := t) hprogram.hasBody
        (t.planOf program base) locals
      refine ⟨[], rest, ?_, hrest, ?_, fun hmodule => absurd hmodule (by simp [hkind])⟩
      · rw [Report.program_finished, withImports_of_not_isModule hkind hnamed hplan]
        exact hbody.listField_body
      · rw [importCount, if_neg (by simp [hkind]), List.length_nil]

/-! ### One for each key -/

/-- A plan has one image for each key of the texts that the image calls of a program give, made of
the first text with the key, and the images are in the order of these texts. Texts with one key,
and only these, mean one image. So every run resolves the image of each key once, and asks for the
URL of the key by this resolution only. A run that succeeds puts one import for each key before the
body of a module, in the order of the images; before the body of another program it puts none,
whatever keys there are. It does not matter in which turns the stores of a run take their steps. -/
theorem images_are_resolved_once (names : Call.FactoryNames) (ascii : Url.ToAscii) (base : Path)
    (program : Tree) :
    (Plan.ofProgram names ascii base program).Deduplicates ascii base
      (Call.allImageTexts names program) ∧
    ∀ t draws turns world document report path,
      runInTurns t draws turns world document program = some report →
      placeOf world document = .ok (path, base) →
      (∀ reference ∈ Call.allImageTexts (t.factoryNames program) program,
        ∃ image ∈ (t.planOf program base).images,
          image.source.key = Plan.keyOf t.ascii base reference ∧
          report.resolutions.filter (fun r => r.1.source.key = Plan.keyOf t.ascii base reference) =
            [(image, t.resolve world image)] ∧
          report.world.asked (Plan.keyOf t.ascii base reference) =
            world.asked (Plan.keyOf t.ascii base reference) +
              (t.resolve world image).starts.length) ∧
      (∀ url, (∀ reference ∈ Call.allImageTexts (t.factoryNames program) program,
          Plan.keyOf t.ascii base reference ≠ url) → report.world.asked url = world.asked url) ∧
      report.resolutions.length =
        Plan.keyCount t.ascii base (Call.allImageTexts (t.factoryNames program) program) ∧
      ∀ kind body, program.IsProgram kind body → report.result = .ok () →
        ∃ (imports : List Import) (rest : List Tree),
          report.program.listField "body" = imports.map Import.declaration ++ rest ∧
          rest.length = body.length ∧
          (program.isKind "Module" = true →
            imports.length =
              Plan.keyCount t.ascii base (Call.allImageTexts (t.factoryNames program) program) ∧
            ∃ contents locals,
              t.Named draws world program (t.planOf program base) contents locals ∧
              imports = (recordsOf t.cache (t.planOf program base).images locals contents).map
                Record.toImport) ∧
          (imports.length =
              Plan.keyCount t.ascii base (Call.allImageTexts (t.factoryNames program) program) ↔
            program.isKind "Module" = true ∨
              Call.allImageTexts (t.factoryNames program) program = []) := by
  refine ⟨(Plan.lists_ofProgram names ascii base program).deduplicates,
    fun t draws turns world document report path hrun hplace => ?_⟩
  have hplan : (t.planOf program base).Deduplicates t.ascii base
      (Call.allImageTexts (t.factoryNames program) program) :=
    (Plan.lists_ofProgram (t.factoryNames program) t.ascii base program).deduplicates
  obtain ⟨hresolutions, hasked⟩ := resolutions_of_runInTurns hrun hplace
  refine ⟨fun reference hmem => ?_, fun url hurl => ?_, ?_, fun kind body hprogram hok => ?_⟩
  · obtain ⟨position, image, -, himage, hkey⟩ := hplan.indexed reference hmem
    have honce : (t.resolutionsOf world (t.planOf program base)).filter
        (fun r => r.1.source.key = image.source.key) = [(image, t.resolve world image)] :=
      filter_resolutionsOf hplan (List.mem_of_getElem? himage)
    rw [← hkey]
    refine ⟨image, List.mem_of_getElem? himage, rfl, ?_, ?_⟩
    · rw [hresolutions, honce]
    · rw [hasked, hresolutions, World.asked_afterAll, honce, List.map_singleton,
        List.sum_singleton]
  · rw [hasked, hresolutions, World.asked_afterAll, filter_resolutionsOf_eq_nil hplan hurl]
    rfl
  · rw [hresolutions, resolutionsOf, List.length_map, hplan.length_images]
  · obtain ⟨imports, rest, hbody, hrest, hcount, hmodule⟩ :=
      exists_imports_of_runInTurns hprogram hrun hok hplace
    rw [importCount, hplan.length_images] at hcount
    refine ⟨imports, rest, hbody, hrest,
      fun hkind => ⟨by rw [hcount, if_pos hkind], hmodule hkind⟩, ?_⟩
    by_cases hkind : program.isKind "Module" = true
    · rw [if_pos hkind] at hcount
      exact iff_of_true hcount (Or.inl hkind)
    · rw [if_neg hkind] at hcount
      rw [hcount, eq_comm, Plan.keyCount_eq_zero_iff, or_iff_right hkind]

/-- The one image of a script is resolved, and no import is put before its body. -/
theorem images_are_resolved_once_script :
    ∃ report, run (offline "/c" 'j') .counted .withImage (.ofPath (.ofText "/p/index.md"))
        .declaredImage = some report ∧ report.result = .ok () ∧
      report.resolutions.length = 1 ∧
      ∃ (imports : List Import) (rest : List Tree),
        report.program.listField "body" = imports.map Import.declaration ++ rest ∧
          rest.length = (Tree.declaredImage.listField "body").length ∧ imports.length ≠ 1 := by
  obtain ⟨turns, report, hturns, hrun, hok⟩ := exists_of_succeeds succeeds_declaredImage
  have htexts : Call.allImageTexts (factoryNames (offline "/c" 'j') .declaredImage) .declaredImage =
      ["logo.png"] := by
    decide +kernel
  have hkind : Tree.declaredImage.isKind "Module" = false := by decide
  obtain ⟨-, -, hlength, himports⟩ :=
    (images_are_resolved_once ["jsx"] .ofAscii (.ofText "/p") .declaredImage).2 _ _ turns _ _ report
      _ hturns placeOf_withImage
  obtain ⟨imports, rest, hbody, hrest, -, hcount⟩ :=
    himports "Script" _ Tree.isProgram_declaredImage hok
  have hone : Plan.keyCount (offline "/c" 'j').ascii (.ofText "/p") ["logo.png"] = 1 := by
    decide +kernel
  rw [htexts, hone] at hlength hcount
  refine ⟨report, hrun, hok, hlength, imports, rest, hbody, hrest, fun himport => ?_⟩
  rcases hcount.mp himport with hmodule | hnil
  · rw [hkind] at hmodule
    cases hmodule
  · cases hnil

end Transform

end ImageImports
