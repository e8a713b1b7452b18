import ImageImports.Transform.Run

/-!
# The stages of a run

A run finds the place of its document, plans its images, resolves them, names and stores them, and
only then rewrites the program. It ends at the first stage that fails, with the first error of that
stage.

## Main definitions

* `Transform.factoryNames`, `Transform.planOf`: what a run looks for in a program, and what it
  finds.
* `Transform.Named`: the images of a plan are resolved and have got names.
* `Transform.Report.kept`: the report of a run whose images are resolved and stored.

## Main results

* `Transform.firstError_eq_ok_iff`, `Transform.exists_of_firstError_eq_error`: the values and the
  error of some results.
-/

namespace ImageImports

/-- Nothing is written before all resolutions have come to their end. -/
theorem World.files_afterAll (w : World) (resolutions : List (PlannedImage × Resolution)) :
    (w.afterAll resolutions).files = w.files := by
  induction resolutions generalizing w with
  | nil => rfl
  | cons first rest ih =>
    rw [World.afterAll, List.foldl_cons]
    exact ih (w.after first.1 first.2)

namespace Transform

/-! ### All values or the first error -/

section

variable {α : Type}

theorem firstError_eq_ok_iff {results : List (Except TransformError α)} {values : List α} :
    firstError results = .ok values ↔ results = values.map .ok := by
  induction results generalizing values with
  | nil => cases values <;> simp [firstError]
  | cons result rest ih =>
    cases result with
    | error e => cases values <;> simp [firstError]
    | ok value =>
      rw [firstError]
      cases hrest : firstError rest with
      | error e =>
        refine iff_of_false (by simp [Except.map]) fun heq => ?_
        cases values with
        | nil => simp at heq
        | cons other others =>
          have hrest' := ih.mpr (List.cons.inj heq).2
          rw [hrest] at hrest'
          cases hrest'
      | ok found =>
        have hfound := ih.mp hrest
        subst hfound
        cases values with
        | nil => simp [Except.map]
        | cons other others =>
          have hinj : (found.map Except.ok : List (Except TransformError α)) =
              others.map Except.ok ↔ found = others :=
            List.map_inj_right fun _ _ h => Except.ok.inj h
          simp [Except.map, hinj]

/-- The first error stands somewhere, and every result before it is a value. -/
theorem exists_of_firstError_eq_error {results : List (Except TransformError α)}
    {e : TransformError} (h : firstError results = .error e) : ∃ i : Nat,
      results[i]? = some (.error e) ∧ ∀ j < i, ∃ value, results[j]? = some (.ok value) := by
  induction results with
  | nil => cases h
  | cons result rest ih =>
    cases result with
    | error other =>
      obtain rfl := Except.error.inj h
      exact ⟨0, rfl, fun j hj => absurd hj (Nat.not_lt_zero j)⟩
    | ok value =>
      rw [firstError] at h
      cases hrest : firstError rest with
      | ok found => rw [hrest] at h; cases h
      | error other =>
        rw [hrest] at h
        obtain rfl := Except.error.inj h
        obtain ⟨i, hi, hbefore⟩ := ih hrest
        refine ⟨i + 1, hi, fun j hj => ?_⟩
        cases j with
        | zero => exact ⟨value, rfl⟩
        | succ j => exact hbefore j (Nat.lt_of_succ_lt_succ hj)

theorem mem_of_firstError_eq_error {results : List (Except TransformError α)}
    {e : TransformError} (h : firstError results = .error e) : .error e ∈ results := by
  obtain ⟨i, hi, -⟩ := exists_of_firstError_eq_error h
  exact List.mem_of_getElem? hi

end

theorem mapM_eq_some_iff {α β : Type} {f : α → Option β} {inputs : List α} {values : List β} :
    inputs.mapM f = some values ↔ inputs.map f = values.map some := by
  induction inputs generalizing values with
  | nil => cases values <;> simp
  | cons input rest ih =>
    rw [List.mapM_cons, List.map_cons]
    cases hvalue : f input with
    | none => cases values <;> simp
    | some value =>
      cases hrest : rest.mapM f with
      | none =>
        refine iff_of_false (by simp) fun heq => ?_
        cases values with
        | nil => simp at heq
        | cons other others =>
          have hothers := ih.mpr (List.cons.inj heq).2
          rw [hrest] at hothers
          cases hothers
      | some found =>
        have hfound := ih.mp hrest
        cases values with
        | nil => simp
        | cons other others =>
          have hinj : (found.map some : List (Option β)) = others.map some ↔ found = others :=
            List.map_inj_right fun _ _ h => Option.some.inj h
          simp [hfound, hinj]

/-! ### What a run looks for, and what it finds -/

variable (t : Transform) (draws : Draws) (world : World) (document : Document) (program : Tree)

/-- The names of the factories that a program imports. -/
def factoryNames : Call.FactoryNames := Factory.names t.factoryPattern.fits program

/-- The images of a program that is read from a directory. -/
def planOf (base : Path) : Plan := Plan.ofProgram (t.factoryNames program) t.ascii base program

/-- The resolutions of the images of a plan. -/
def resolutionsOf (plan : Plan) : List (PlannedImage × Resolution) :=
  plan.images.map fun image => (image, t.resolve world image)

/-- The report of a run that has told the host of the document and nothing else. -/
def Report.begun (path : Path) : Report :=
  .start (document.addMessage (processing path document.history)) world program

/-- A report with the resolutions of the images. -/
def Report.withResolutions (report : Report) (resolutions : List (PlannedImage × Resolution)) :
    Report :=
  { report with
    world := report.world.afterAll resolutions
    resolutions := resolutions
    warnings := (resolutions.map Prod.snd).flatMap Resolution.warnings }

/-- The images of a plan are resolved to some contents and have got some names. -/
structure Named (plan : Plan) (contents : List ByteArray) (locals : List String) : Prop where
  resolved : (plan.images.map fun image => (t.resolve world image).result) =
    contents.map fun bytes => some (.ok bytes)
  named : (NameSupply.ofProgram t.identifiers draws.names program).take? plan.images.length =
    some locals

theorem Named.length_contents {t : Transform} {draws : Draws} {world : World} {program : Tree}
    {plan : Plan} {contents : List ByteArray} {locals : List String}
    (h : t.Named draws world program plan contents locals) :
    contents.length = plan.images.length := by
  have hlength := congrArg List.length h.resolved
  simpa using hlength.symm

/-- All resolutions of images that are named have come to their end. -/
theorem Named.mapM_result {t : Transform} {draws : Draws} {world : World} {program : Tree}
    {plan : Plan} {contents : List ByteArray} {locals : List String}
    (h : t.Named draws world program plan contents locals) :
    ((t.resolutionsOf world plan).map Prod.snd).mapM Resolution.result =
      some (contents.map .ok) := by
  rw [mapM_eq_some_iff, resolutionsOf, List.map_map, List.map_map, List.map_map]
  exact h.resolved

/-- The report of a run whose images are resolved, when its stores have left some files. -/
def Report.kept (plan : Plan) (path : Path) (files : FileSystem)
    (stores : List (Except TransformError Bool)) : Report :=
  let resolved := (Report.begun world document program path).withResolutions
    (t.resolutionsOf world plan)
  { resolved with world := { resolved.world with files := files }, stores := stores }

end Transform

end ImageImports
