import ImageImports.Proofs.Transform.Interleaving

/-!
# Images that are resolved in any order

The resolve phase of a run waits for all its images and then looks at their results in the order of
the plan. So its result is told by the resolutions alone: all contents, or the error of the first
image of the plan that fails, even if a later one has failed before. The phase lasts as long as the
image that takes longest, and an image takes no longer than the deadline leaves it.

## Main definitions

* `Transform.resolveInTurns`: what `Transform.resolveAll` does, with images that take turns.
* `Transform.ownTime`, `Transform.timeTaken`: the time that an image takes without a deadline, and
  the time that it takes.

## Main results

* `Transform.firstError_eq_error_iff`: an error is the first one.
* `Transform.finish_resolve`: when the resolution of an image ends.
* `Transform.resolution_in_any_order`: turns make no difference to the resolve phase.
-/

namespace ImageImports.Transform

open Fetch Resolution

/-- An error is the first one if it is that of a result before which all are values. -/
theorem firstError_eq_error_iff {α : Type} {results : List (Except TransformError α)}
    {e : TransformError} : firstError results = .error e ↔
      ∃ i : Nat, results[i]? = some (.error e) ∧
        ∀ j < i, ∃ value, results[j]? = some (.ok value) := by
  refine ⟨exists_of_firstError_eq_error, ?_⟩
  rintro ⟨i, hi, hearlier⟩
  cases hresult : firstError results with
  | ok values =>
    rw [firstError_eq_ok_iff] at hresult
    rw [hresult, List.getElem?_map] at hi
    obtain ⟨value, -, hvalue⟩ := Option.map_eq_some_iff.mp hi
    cases hvalue
  | error other =>
    obtain ⟨k, hk, hbefore⟩ := exists_of_firstError_eq_error hresult
    obtain hlt | rfl | hlt := Nat.lt_trichotomy i k
    · obtain ⟨value, hvalue⟩ := hbefore i hlt
      rw [hi] at hvalue
      cases hvalue
    · rw [hk, Option.some_inj] at hi
      rw [Except.error.inj hi]
    · obtain ⟨value, hvalue⟩ := hearlier k hlt
      rw [hk] at hvalue
      cases hvalue

/-! ### The time that images take -/

section Time

variable (t : Transform) (w : World) (image : PlannedImage)

/-- The time that an image takes when there is no deadline. -/
def ownTime : Nat := (resolve { t with timeout := none } w image).finish.nanos - w.time.nanos

/-- The time that an image takes: its own, or that of the deadline if it is shorter. -/
def timeTaken : Nat :=
  match t.timeout with
  | none => t.ownTime w image
  | some limit => min (t.ownTime w image) limit.nanos

variable {t w image}

theorem resolve_local {path : Path} (h : image.source = .local path) :
    t.resolve w image = ofFile w path := by
  rw [resolve, h]
  rfl

theorem resolve_remote {url : Url} (h : image.source = .remote url) :
    t.resolve w image =
      t.ofRun image url (t.fetcher.fetch url (w.asked url.render) w.time (t.limitOf w)) := by
  rw [resolve, h]
  rfl

/-- The resolution of an image starts at once and ends after the time that the image takes. -/
theorem finish_resolve :
    (t.resolve w image).finish.nanos = w.time.nanos + t.timeTaken w image := by
  cases hsource : image.source with
  | «local» path =>
    have hown : t.ownTime w image = 0 := by
      rw [ownTime, resolve_local hsource]
      exact Nat.sub_self _
    have htaken : t.timeTaken w image = 0 := by
      unfold timeTaken
      rw [hown]
      split
      · rfl
      · exact Nat.zero_min _
    rw [htaken, resolve_local hsource]
    rfl
  | remote url =>
    have hstart : w.time.nanos ≤
        (t.fetcher.fetch url (w.asked url.render) w.time none).finish.nanos :=
      Fetcher.le_finish_attempts rfl
    have hown : t.ownTime w image =
        (t.fetcher.fetch url (w.asked url.render) w.time none).finish.nanos - w.time.nanos := by
      rw [ownTime, resolve_remote hsource]
      rfl
    rw [resolve_remote hsource, timeTaken, hown]
    change (t.fetcher.fetch url (w.asked url.render) w.time
      (t.timeout.map (w.time + ·))).finish.nanos = _
    cases t.timeout with
    | none => exact (Nat.add_sub_cancel' hstart).symm
    | some limit =>
      have hlimit : w.time.nanos ≤ (w.time + limit).nanos := Nat.le_add_right _ _
      rw [Option.map_some, Fetcher.finish_fetch_limit hlimit, Duration.nanos_add]
      dsimp only
      omega

theorem time_afterAll_resolutionsOf {plan : Plan} :
    (w.afterAll (t.resolutionsOf w plan)).time.nanos =
      w.time.nanos + (plan.images.map (t.timeTaken w)).foldr max 0 := by
  rw [World.time_afterAll, resolutionsOf, List.map_map]
  induction plan.images with
  | nil => rfl
  | cons image rest ih =>
    rw [List.map_cons, List.foldr_cons, ih, List.map_cons, List.foldr_cons, ← Nat.add_max_add_left]
    exact congrArg (max · _) finish_resolve

end Time

/-! ### The resolve phase -/

/-- Resolves the images of a plan, whose steps come in given turns, and goes on to keep them when
all images have ended. -/
def resolveInTurns (t : Transform) (draws : Draws) (positions : List Nat)
    (names : Call.FactoryNames) (plan : Plan) (report : Report) : Option Report :=
  let p := (Progress.start report.world plan.images).turns t report.world positions
  p.resolutions?.bind fun resolutions =>
    ((resolutions.map Prod.snd).mapM Resolution.result).bind fun results =>
      let report := { report with
        world := { report.world with time := p.clock, asked := p.asked }
        resolutions := resolutions
        warnings := (resolutions.map Prod.snd).flatMap Resolution.warnings }
      match firstError results with
      | .error e => some { report with result := .error e }
      | .ok contents => keep t draws names plan contents report

variable {t : Transform} {w : World} {plan : Plan} {p : Progress}

theorem mapM_result_eq_some_iff {results : List (Except TransformError ByteArray)} :
    ((t.resolutionsOf w plan).map Prod.snd).mapM Resolution.result = some results ↔
      plan.images.map (fun image => (t.resolve w image).result) = results.map some := by
  rw [mapM_eq_some_iff, resolutionsOf, List.map_map, List.map_map]
  rfl

/-- When all images have ended there are all contents, in the order of the plan, just if every image
resolves. -/
theorem Progress.outcome?_eq_ok_iff (h : p.resolutions? = some (t.resolutionsOf w plan))
    {contents : List ByteArray} : p.outcome? = some (.ok contents) ↔
      plan.images.map (fun image => (t.resolve w image).result) =
        contents.map fun bytes => some (.ok bytes) := by
  rw [outcome?, h, Option.bind_some, Option.map_eq_some_iff]
  constructor
  · rintro ⟨results, hresults, hfirst⟩
    rw [firstError_eq_ok_iff] at hfirst
    rw [mapM_result_eq_some_iff.mp hresults, hfirst, List.map_map]
    rfl
  · intro hall
    refine ⟨contents.map .ok, mapM_result_eq_some_iff.mpr ?_, firstError_eq_ok_iff.mpr rfl⟩
    rw [hall, List.map_map]
    rfl

/-- When all images have ended there is the error of the first image that fails, in the order of the
plan. -/
theorem Progress.outcome?_eq_error_iff (h : p.resolutions? = some (t.resolutionsOf w plan))
    {e : TransformError} : p.outcome? = some (.error e) ↔
      (∀ image ∈ plan.images, (t.resolve w image).result.isSome = true) ∧
      ∃ (position : Nat) (image : PlannedImage), plan.images[position]? = some image ∧
        (t.resolve w image).result = some (.error e) ∧
        ∀ earlier < position, ∃ other bytes, plan.images[earlier]? = some other ∧
          (t.resolve w other).result = some (.ok bytes) := by
  rw [outcome?, h, Option.bind_some, Option.map_eq_some_iff]
  -- The results of all images are those of the resolutions, position by position.
  have hat {results : List (Except TransformError ByteArray)}
      (hresults : plan.images.map (fun image => (t.resolve w image).result) = results.map some)
      (position : Nat) (result : Except TransformError ByteArray) :
      results[position]? = some result ↔ ∃ image, plan.images[position]? = some image ∧
        (t.resolve w image).result = some result := by
    have hget := congrArg (·[position]?) hresults
    simp only [List.getElem?_map] at hget
    cases himage : plan.images[position]? with
    | none =>
      rw [himage, Option.map_none, eq_comm, Option.map_eq_none_iff] at hget
      simp [hget]
    | some image =>
      rw [himage, Option.map_some] at hget
      cases hresult : results[position]? with
      | none => rw [hresult] at hget; cases hget
      | some found =>
        rw [hresult, Option.map_some, Option.some_inj] at hget
        simp [hget]
  constructor
  · rintro ⟨results, hresults, hfirst⟩
    rw [mapM_result_eq_some_iff] at hresults
    obtain ⟨position, herror, hearlier⟩ := firstError_eq_error_iff.mp hfirst
    refine ⟨fun image himage => ?_, position, ?_⟩
    · have hmem : (t.resolve w image).result ∈ results.map some := by
        rw [← hresults]
        exact List.mem_map_of_mem (f := fun image => (t.resolve w image).result) himage
      obtain ⟨result, -, hresult⟩ := List.mem_map.mp hmem
      rw [← hresult]
      rfl
    · obtain ⟨image, himage, hresult⟩ := (hat hresults position _).mp herror
      refine ⟨image, himage, hresult, fun earlier hlt => ?_⟩
      obtain ⟨bytes, hbytes⟩ := hearlier earlier hlt
      obtain ⟨other, hother, hok⟩ := (hat hresults earlier _).mp hbytes
      exact ⟨other, bytes, hother, hok⟩
  · rintro ⟨hsome, position, image, himage, hresult, hearlier⟩
    obtain ⟨results, hresults⟩ : ∃ results : List (Except TransformError ByteArray),
        plan.images.map (fun image => (t.resolve w image).result) = results.map some := by
      refine ⟨plan.images.map fun image => (t.resolve w image).result.getD (.ok .empty), ?_⟩
      rw [List.map_map]
      refine List.map_congr_left fun image himage => ?_
      obtain ⟨result, hresult⟩ := Option.isSome_iff_exists.mp (hsome image himage)
      simp [hresult]
    refine ⟨results, mapM_result_eq_some_iff.mpr hresults, firstError_eq_error_iff.mpr
      ⟨position, (hat hresults position _).mpr ⟨image, himage, hresult⟩, fun earlier hlt => ?_⟩⟩
    obtain ⟨other, bytes, hother, hok⟩ := hearlier earlier hlt
    exact ⟨bytes, (hat hresults earlier _).mpr ⟨other, hother, hok⟩⟩

/-- Whatever the turns are, an image that has had enough of them has ended, whether or not others
have failed, and an image that has ended has come to its own resolution with all its attempts. When
all images have ended, the resolve phase has all contents in the order of the plan, or the error of
the first image of the plan that fails; the requests are those of the resolutions; the phase has
lasted as long as the image that takes longest, where each takes its own time or that of the
deadline; and the run goes on as the run does that is computed. -/
theorem resolution_in_any_order (t : Transform) (w : World) (base : Path)
    (references : List String) (positions : List Nat) :
    let plan := Plan.ofReferences t.ascii base references
    let p := (Progress.start w plan.images).turns t w positions
    (∀ (position : Nat) (image : PlannedImage), plan.images[position]? = some image →
      2 * attemptLimit + 1 ≤ positions.count position →
      p.members[position]? = some (image, .ended (t.resolve w image))) ∧
    (∀ (position : Nat) (image : PlannedImage) (r : Resolution),
      p.members[position]? = some (image, .ended r) →
      plan.images[position]? = some image ∧ r = t.resolve w image) ∧
    ∀ resolutions, p.resolutions? = some resolutions →
      resolutions = t.resolutionsOf w plan ∧
      p.asked = (w.afterAll resolutions).asked ∧
      p.clock.nanos = w.time.nanos + (plan.images.map (t.timeTaken w)).foldr max 0 ∧
      (∀ contents, p.outcome? = some (.ok contents) ↔
        plan.images.map (fun image => (t.resolve w image).result) =
          contents.map fun bytes => some (.ok bytes)) ∧
      (∀ e, p.outcome? = some (.error e) ↔
        (∀ image ∈ plan.images, (t.resolve w image).result.isSome = true) ∧
        ∃ (position : Nat) (image : PlannedImage), plan.images[position]? = some image ∧
          (t.resolve w image).result = some (.error e) ∧
          ∀ earlier < position, ∃ other bytes, plan.images[earlier]? = some other ∧
            (t.resolve w other).result = some (.ok bytes)) ∧
      ∀ draws names report, report.world = w →
        resolveInTurns t draws positions names plan report =
          resolveAll t draws names plan report := by
  intro plan p
  have hsound : Progress.Sound t w plan p :=
    (Progress.sound_start t w plan).turns (Plan.lists_ofReferences references).deduplicates.keys
      positions
  refine ⟨fun position image himage hcount => ?_, fun position image r hended =>
    hsound.eq_resolve hended, fun resolutions hended => ?_⟩
  · have hstart : (Progress.start w plan.images).members[position]? =
        some (image, .ofSource w.time image.source) := by
      rw [Progress.start, List.getElem?_map, himage, Option.map_some]
    obtain ⟨later, hlater, hrank⟩ := Progress.rank_turns (t := t) (w := w) positions hstart
    have hmost := Stage.rank_ofSource_le w.time image.source
    obtain ⟨r, rfl⟩ := Stage.eq_ended_of_rank (s := later) (by omega)
    rw [← (hsound.eq_resolve hlater).2]
    exact hlater
  · obtain ⟨hresolutions, hasked, hclock⟩ := hsound.ended hended
    have hall := hended
    rw [hresolutions] at hall
    refine ⟨hresolutions, hasked, ?_, fun contents => Progress.outcome?_eq_ok_iff hall,
      fun e => Progress.outcome?_eq_error_iff hall, ?_⟩
    · rw [hclock, hresolutions, time_afterAll_resolutionsOf]
    · rintro draws names report rfl
      rw [resolveInTurns, resolveAll]
      dsimp only
      rw [hended, Option.bind_some, hasked, hclock, ← World.afterAll_eq, hresolutions]
      rfl

/-- A transform with a deadline of three seconds. A slow server takes five seconds to lose the
connection, and every other one takes a second to say that there is no such image. -/
def hurried : Transform where
  cache := ⟨.ofText "/c", .hex, true⟩
  ascii := .ofAscii
  fetcher :=
    ⟨fun url _ =>
      if url.path = "/slow.png" then
        ⟨.ofSeconds 5, .error (.transport url.render "connection reset")⟩
      else ⟨.ofSeconds 1, .ok ⟨404, [], none⟩⟩,
      .ofStatuses 0 (.fixed .zero) [], fun time => ⟨time.nanos⟩⟩
  factoryPattern := ⟨.chars (.single 'j')⟩
  identifiers := .counter
  timeout := some (.ofSeconds 3)

/-- The second image fails while the first is on its way, and the error is that of the first. Both
together take as long as the deadline. -/
theorem resolution_in_any_order_crossing :
    let w : World := ⟨⟨[]⟩, none, .zero, fun _ => 0⟩
    let plan := Plan.ofReferences hurried.ascii (.ofText "/p")
      ["https://a.test/slow.png", "https://b.test/gone.png"]
    let p := (Progress.start w plan.images).turns hurried w
    (p [0, 1, 1]).members.map (fun m => m.2.resolution?.isSome) = [false, true] ∧
      (p [0, 1, 1, 0]).outcome? =
        some (.error (.timeout "https://a.test/slow.png" (.ofSeconds 3))) ∧
      (p [0, 1, 1, 0]).clock.nanos = 3000000000 := by
  intro w plan p
  have hended : (p [0, 1, 1, 0]).resolutions?.isSome = true := by decide +kernel
  have hresults : plan.images.map (fun image => (hurried.resolve w image).result) =
      [some (.error (.timeout "https://a.test/slow.png" (.ofSeconds 3))),
        some (.error (.fetchFailed "https://b.test/gone.png" "status 404"))] := by
    decide +kernel
  have htimes : plan.images.map (hurried.timeTaken w) = [3000000000, 1000000000] := by
    decide +kernel
  obtain ⟨resolutions, hended⟩ := Option.isSome_iff_exists.mp hended
  obtain ⟨-, -, hclock, -, herror, -⟩ := (resolution_in_any_order hurried w (.ofText "/p")
    ["https://a.test/slow.png", "https://b.test/gone.png"] [0, 1, 1, 0]).2.2 resolutions hended
  refine ⟨by decide +kernel, (herror _).mpr ⟨fun image himage => ?_, 0, ?_⟩, ?_⟩
  · have hmem := List.mem_map_of_mem (f := fun image => (hurried.resolve w image).result) himage
    rw [hresults] at hmem
    simp only [List.mem_cons, List.not_mem_nil, or_false] at hmem
    obtain hresult | hresult := hmem <;> rw [hresult] <;> rfl
  · have hfirst := congrArg (·[0]?) hresults
    rw [List.getElem?_map] at hfirst
    obtain ⟨image, himage, hresult⟩ := Option.map_eq_some_iff.mp hfirst
    exact ⟨image, himage, hresult, fun earlier hlt => absurd hlt (Nat.not_lt_zero earlier)⟩
  · rw [hclock, htimes]
    decide +kernel

end ImageImports.Transform
