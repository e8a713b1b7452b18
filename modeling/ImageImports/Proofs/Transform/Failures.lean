import ImageImports.Proofs.Transform.Stores

/-!
# Failures of a run

A run may fail because its document has no place, because an image cannot be resolved, or because
one cannot be stored. It never fails because the program does not fit its plan: the texts that the
rewriting meets are those that the plan was made of, although the calls are looked at in another
order and after their parts have changed.

## Main definitions

* `TransformError.phase`: the part of a run that an error comes from.
* `TransformError.isInternal`: the error of a program that does not fit its plan.

## Main results

* `Transform.phase_of_placeOf`, `Transform.phase_of_resolve`, `Transform.phase_of_storedOf`: every
  part of a run fails with errors of its own.
* `Transform.planned_texts_are_rewritten`: planning and rewriting agree on every program.
-/

namespace ImageImports

/-- The parts of a run. -/
inductive Phase where
  | placing
  | resolving
  | storing
  | rewriting
  deriving DecidableEq

/-- The part of a run that an error comes from. -/
def TransformError.phase : TransformError → Phase
  | .documentState | .workingDirectory _ => .placing
  | .readFailed .. | .fetchFailed .. | .fetchExhausted .. | .invalidRetryAfter .. | .timeout .. =>
    .resolving
  | .writeFailed .. => .storing
  | .malformedMatch _ => .rewriting

/-- The error of a program that does not fit its plan. -/
def TransformError.isInternal : TransformError → Bool
  | .malformedMatch _ => true
  | _ => false

theorem TransformError.isInternal_of_phase {e : TransformError} (h : e.phase ≠ .rewriting) :
    e.isInternal = false := by
  cases e with
  | malformedMatch detail => exact absurd rfl h
  | _ => rfl

theorem FetchError.phase_toTransformError (e : FetchError) :
    e.toTransformError.phase = .resolving := by
  cases e <;> rfl

namespace Transform

variable {t : Transform} {world : World}

theorem phase_of_placeOf {document : Document} {e : TransformError}
    (h : placeOf world document = .error e) : e.phase = .placing := by
  have hpath : ∀ e, document.path = .error e → e = .documentState := by
    intro e he
    unfold Document.path at he
    split at he
    · exact (Except.error.inj he).symm
    · split at he
      · exact (Except.error.inj he).symm
      · cases he
  rw [placeOf, Document.directory] at h
  cases hfound : document.path with
  | error e' =>
    rw [hfound] at h
    obtain rfl := Except.error.inj h
    rw [hpath _ hfound]
    rfl
  | ok path =>
    rw [hfound] at h
    simp only [Except.bind, Except.map] at h
    cases hanchor : Path.anchor world.workingDirectory (path.parent?.getD ⟨[]⟩) with
    | error cause =>
      rw [hanchor] at h
      obtain rfl := Except.error.inj h
      rfl
    | ok base => rw [hanchor] at h; cases h

theorem phase_of_contentOf {url : Url} {answer : Except FetchError Response}
    {e : TransformError} (h : contentOf url answer = .error e) : e.phase = .resolving := by
  cases answer with
  | error cause =>
    obtain rfl := Except.error.inj h
    exact cause.phase_toTransformError
  | ok response =>
    rw [contentOf] at h
    split at h
    · obtain rfl := Except.error.inj h
      rfl
    · split at h
      · obtain rfl := Except.error.inj h
        rfl
      · split at h
        · obtain rfl := Except.error.inj h
          rfl
        · cases h

theorem phase_of_resolve {image : PlannedImage} {e : TransformError}
    (h : (t.resolve world image).result = some (.error e)) : e.phase = .resolving := by
  rw [resolve] at h
  split at h
  next path hsource =>
    rw [Option.some.injEq, readLocal] at h
    cases hread : world.files.read path with
    | error cause =>
      rw [hread] at h
      obtain rfl := Except.error.inj h
      rfl
    | ok bytes => rw [hread] at h; cases h
  next url hsource =>
    dsimp only at h
    split at h
    · exact phase_of_contentOf (Option.some.inj h)
    · obtain rfl := Except.error.inj (Option.some.inj h)
      rfl
    · cases h

/-- The first error of some resolutions comes from one of them. -/
theorem phase_of_resolutions {images : List PlannedImage}
    {results : List (Except TransformError ByteArray)}
    (hresults : (images.map fun image => (t.resolve world image).result) = results.map some)
    {e : TransformError} (herror : firstError results = .error e) : e.phase = .resolving := by
  have hmem : some (.error e) ∈ images.map fun image => (t.resolve world image).result := by
    rw [hresults]
    exact List.mem_map_of_mem (mem_of_firstError_eq_error herror)
  obtain ⟨image, -, hresult⟩ := List.mem_map.mp hmem
  exact phase_of_resolve hresult

/-- The first error of some stores comes from one of them. -/
theorem phase_of_storedOf {records : List Record} {results : List (Except FileError Bool)}
    {e : TransformError} (herror : firstError (storedOf records results) = .error e) :
    e.phase = .storing := by
  obtain ⟨i, record, cause, -, rfl, -⟩ := exists_of_firstError_storedOf herror
  rfl

/-- No run fails because its program does not fit its plan. -/
theorem isInternal_of_runInTurns {draws : Draws} {turns : List Cache.Turn} {document : Document}
    {program : Tree} {report : Report}
    (h : runInTurns t draws turns world document program = some report) {e : TransformError}
    (he : report.result = .error e) : e.isInternal = false := by
  refine TransformError.isInternal_of_phase ?_
  cases endsInTurns_of_runInTurns h with
  | misplaced cause hplace =>
    obtain rfl := Except.error.inj he
    simp [phase_of_placeOf hplace]
  | unchanged path base hplace hplan => cases he
  | unresolved path base hplace results hresults cause herror =>
    obtain rfl := Except.error.inj he
    simp [phase_of_resolutions hresults herror]
  | unstored path base hplace contents locals hnamed records hrecords p hp results hresults cause
      herror =>
    obtain rfl := Except.error.inj he
    simp [phase_of_storedOf herror]
  | rewritten path base hplace hplan contents locals hnamed records hrecords p hp results hresults
      written hwritten =>
    cases he

/-- Planning and rewriting agree on every program. With one record for each planned image all
properties that the plan was made of are rewritten, and they are counted as often as they occur.
Every call is rewritten as if it were looked at before its parts are, and with its parts rewritten
it draws the images that it drew before. So no run fails because its program does not fit, in
whatever turns its stores take their steps. -/
theorem planned_texts_are_rewritten (names : Call.FactoryNames) (ascii : Url.ToAscii) (base : Path)
    (program : Tree) :
    (∀ records : List Record,
      records.length = (Plan.ofProgram names ascii base program).images.length →
      (Rewrite.apply names (Plan.ofProgram names ascii base program) (records.map Record.name)
        program).2 = .ok (Call.allImageTexts names program).length) ∧
    (∀ bindings : Rewrite.Bindings,
      (Rewrite.rewrite names bindings program).met.Perm (Call.allImageTexts names program) ∧
      (∀ chained fields, (Rewrite.rewriteFrom names bindings chained (.object fields)).tree =
        if Tree.isCallVisit ⟨chained, .object fields⟩ && Call.isImage names (.object fields) then
          Rewrite.rewriteCall bindings (Rewrite.descend names bindings (.object fields))
        else Rewrite.descend names bindings (.object fields)) ∧
      ∀ call, Call.isImage names (Rewrite.descend names bindings call) = Call.isImage names call ∧
        Call.imageTexts names (Rewrite.descend names bindings call) =
          Call.imageTexts names call) ∧
    ∀ t draws turns world document report,
      runInTurns t draws turns world document program = some report →
      ∀ detail, report.result ≠ .error (.malformedMatch detail) := by
  refine ⟨fun records hlength => ?_, fun bindings => ⟨?_, ?_, ?_⟩, ?_⟩
  · rw [Rewrite.apply_ofProgram (by rw [List.length_map, hlength])]
  · exact Rewrite.perm_met_rewrite names bindings program
  · intro chained fields
    have hkind := Rewrite.isKind_descend names bindings (.object fields) "CallExpression"
    have himage := Rewrite.isImage_descend names bindings names (.object fields)
    rw [Rewrite.rewriteFrom_object, Rewrite.finish, Tree.isCallVisit]
    dsimp only
    rw [hkind, himage]
    split <;> rfl
  · exact fun call => ⟨Rewrite.isImage_descend names bindings names call,
      Rewrite.imageTexts_descend names bindings names call⟩
  · intro t draws turns world document report hrun detail hresult
    cases isInternal_of_runInTurns hrun hresult

/-- A program with one image call inside of another, and a run that finds both. -/
theorem planned_texts_are_rewritten_nested :
    let program := Tree.nestedImages
    let records : List Record := [⟨"logo", .ofText "/c/1.png", .empty⟩]
    (Rewrite.apply ["jsx"] (Plan.ofProgram ["jsx"] .ofAscii (.ofText "/p") program)
      (records.map Record.name) program).2 = .ok 2 ∧
    ∃ report, run (offline "/c" 'j') .counted .withImage (.ofPath (.ofText "/p/index.md")) program =
      some report ∧ ∀ detail, report.result ≠ .error (.malformedMatch detail) := by
  intro program records
  have hagree := planned_texts_are_rewritten ["jsx"] .ofAscii (.ofText "/p") program
  have hlength :
      records.length = (Plan.ofProgram ["jsx"] .ofAscii (.ofText "/p") program).images.length := by
    decide +kernel
  have hcount : (Call.allImageTexts ["jsx"] program).length = 2 := by decide +kernel
  obtain ⟨turns, report, hturns, hreport, -⟩ := exists_of_succeeds succeeds_nestedImages
  refine ⟨?_, report, hreport, hagree.2.2 _ _ turns _ _ report hturns⟩
  rw [hagree.1 records hlength, hcount]

end Transform

end ImageImports
