import ImageImports.Proofs.Transform.Moves
import ImageImports.Proofs.Transform.OncePerKey
import Mathlib.Algebra.BigOperators.Group.List.Basic

/-!
# Images that take turns

All images of a plan are on their way at one time. In every turn one of them takes its next step,
and whose turn it is is left open. The images have different keys, so nobody else asks for the URL
of an image, and each image comes to its own resolution in its own time.

## Main definitions

* `Transform.Progress`, `Transform.Progress.turns`: the images on their way, and what becomes of
  them in given turns.
* `Transform.Progress.outcome?`: all contents or the first error, when all images have ended.
* `Transform.Progress.Sound`: what is kept by every turn.

## Main results

* `Transform.Progress.rank_turns`: an image has no more steps to take than it had turns less.
* `Transform.Progress.Sound.turn`, `Transform.Progress.Sound.turns`: one turn and all turns keep it.
* `Transform.Progress.Sound.ended`: what is known when all images have ended.
-/

namespace ImageImports

/-! ### The world after all resolutions -/

namespace World

theorem time_afterAll (w : World) (resolutions : List (PlannedImage × Resolution)) :
    (w.afterAll resolutions).time.nanos =
      (resolutions.map fun r => r.2.finish.nanos).foldr max w.time.nanos := by
  induction resolutions generalizing w with
  | nil => rfl
  | cons first rest ih =>
    have hfold (times : List Nat) (a b : Nat) :
        times.foldr max (max a b) = max b (times.foldr max a) := by
      induction times with
      | nil => exact max_comm a b
      | cons time times ih => rw [List.foldr_cons, ih, List.foldr_cons, max_left_comm]
    rw [afterAll, List.foldl_cons, ← afterAll, ih, List.map_cons, List.foldr_cons]
    exact hfold _ _ _

theorem time_afterAll_le_iff {w : World} {resolutions : List (PlannedImage × Resolution)}
    {last : Nat} : (w.afterAll resolutions).time.nanos ≤ last ↔
      w.time.nanos ≤ last ∧ ∀ r ∈ resolutions, r.2.finish.nanos ≤ last := by
  rw [time_afterAll]
  induction resolutions with
  | nil => simp
  | cons first rest ih =>
    rw [List.map_cons, List.foldr_cons, max_le_iff, ih, List.forall_mem_cons, and_left_comm]

/-- Resolutions change the time and the numbers of requests, and nothing else. -/
theorem afterAll_eq (w : World) (resolutions : List (PlannedImage × Resolution)) :
    w.afterAll resolutions =
      { w with
        time := (w.afterAll resolutions).time
        asked := (w.afterAll resolutions).asked } := by
  have hdirectory : (w.afterAll resolutions).workingDirectory = w.workingDirectory := by
    induction resolutions generalizing w with
    | nil => rfl
    | cons first rest ih =>
      rw [afterAll, List.foldl_cons]
      exact ih (w.after first.1 first.2)
  rw [← files_afterAll w resolutions, ← hdirectory]

end World

namespace Transform

open Fetch Resolution

/-! ### Images on their way -/

/-- Images on their way, and what they share: how often each URL was asked for, and the latest time
at which something has happened. -/
structure Progress where
  asked : String → Nat
  clock : Duration
  members : List (PlannedImage × Stage)

namespace Progress

/-- Some images before their first step. -/
def start (w : World) (images : List PlannedImage) : Progress :=
  ⟨w.asked, w.time, images.map fun image => (image, .ofSource w.time image.source)⟩

/-- The progress after a turn of the image at a position. A turn of no image changes nothing. -/
def turn (t : Transform) (w : World) (p : Progress) (position : Nat) : Progress :=
  match p.members[position]? with
  | none => p
  | some (image, stage) =>
    let next := t.move w image (p.asked image.source.key) stage
    ⟨fun url => if url = image.source.key then p.asked url + next.requests else p.asked url,
      World.later p.clock next.time, p.members.set position (image, next.stage)⟩

/-- The progress after several turns. -/
def turns (t : Transform) (w : World) (p : Progress) (positions : List Nat) : Progress :=
  positions.foldl (turn t w) p

/-- The resolutions of all images, if all have ended. -/
def resolutions? (p : Progress) : Option (List (PlannedImage × Resolution)) :=
  p.members.mapM fun m => m.2.resolution?.map (m.1, ·)

/-- The contents of all images or the first error, if all have ended. -/
def outcome? (p : Progress) : Option (Except TransformError (List ByteArray)) :=
  p.resolutions?.bind fun resolutions =>
    ((resolutions.map Prod.snd).mapM Resolution.result).map firstError

variable {t : Transform} {w : World} {p : Progress}

/-- A turn changes nothing, or one image takes its next step and all others stay where they are. -/
theorem turn_cases (t : Transform) (w : World) (p : Progress) (position : Nat) :
    p.turn t w position = p ∨
    ∃ front image stage back, p.members = front ++ (image, stage) :: back ∧
      p.turn t w position =
        ⟨fun url => if url = image.source.key then
            p.asked url + (t.move w image (p.asked image.source.key) stage).requests
          else p.asked url,
        World.later p.clock (t.move w image (p.asked image.source.key) stage).time,
        front ++ (image, (t.move w image (p.asked image.source.key) stage).stage) :: back⟩ := by
  rw [turn]
  cases hfound : p.members[position]? with
  | none => exact .inl rfl
  | some m =>
    obtain ⟨image, stage⟩ := m
    obtain ⟨hposition, hmember⟩ := List.getElem?_eq_some_iff.mp hfound
    refine .inr ⟨p.members.take position, image, stage, p.members.drop (position + 1), ?_, ?_⟩
    · rw [← hmember, ← List.drop_eq_getElem_cons hposition, List.take_append_drop]
    · dsimp only
      rw [List.set_eq_take_append_cons_drop, if_pos hposition]

/-- A turn is a step of the image at its position. -/
theorem getElem?_turn (t : Transform) (w : World) (p : Progress) (position i : Nat) :
    (p.turn t w position).members[i]? = if position = i then
        p.members[i]?.map fun m => (m.1, (t.move w m.1 (p.asked m.1.source.key) m.2).stage)
      else p.members[i]? := by
  by_cases hi : position = i
  · subst hi
    rw [if_pos rfl, turn]
    cases hfound : p.members[position]? with
    | none => rw [hfound, Option.map_none]
    | some m => exact List.getElem?_set_self (List.getElem?_eq_some_iff.mp hfound).1
  · rw [if_neg hi, turn]
    split
    next => rfl
    next => exact List.getElem?_set_ne hi

/-- An image has no more steps to take than it had turns less. -/
theorem rank_turns (positions : List Nat) {i : Nat} {image : PlannedImage} {stage : Stage}
    (h : p.members[i]? = some (image, stage)) :
    ∃ later, (p.turns t w positions).members[i]? = some (image, later) ∧
      later.rank ≤ stage.rank - positions.count i := by
  induction positions generalizing p stage with
  | nil => exact ⟨stage, h, Nat.le_refl _⟩
  | cons position rest ih =>
    have hturn := p.getElem?_turn t w position i
    rw [h] at hturn
    by_cases hi : position = i
    · rw [if_pos hi, Option.map_some] at hturn
      dsimp only at hturn
      obtain ⟨later, hlater, hrank⟩ := ih hturn
      refine ⟨later, hlater, hrank.trans ?_⟩
      rw [hi, List.count_cons_self]
      by_cases hpos : 0 < stage.rank
      · have hlt : (t.move w image (p.asked image.source.key) stage).stage.rank < stage.rank :=
          rank_move_lt (p.asked image.source.key) hpos
        omega
      · obtain ⟨r, rfl⟩ := Stage.eq_ended_of_rank (Nat.eq_zero_of_not_pos hpos)
        exact Nat.zero_sub _ ▸ Nat.zero_le _
    · rw [if_neg hi] at hturn
      obtain ⟨later, hlater, hrank⟩ := ih hturn
      refine ⟨later, hlater, ?_⟩
      rwa [List.count_cons_of_ne hi]

/-! ### What the turns keep -/

/-- What every turn keeps: the images, what they come to, that nothing else is asked for than what
they have asked for, and that the clock is between the ends of those that have ended and the last
end of all. -/
structure Sound (t : Transform) (w : World) (plan : Plan) (p : Progress) : Prop where
  images : p.members.map Prod.fst = plan.images
  comes : ∀ m ∈ p.members, t.endingOf w m.1 m.2 = t.resolve w m.1
  inTime : ∀ m ∈ p.members, m.2.InTime (t.limitOf w)
  asked : ∀ url, p.asked url = w.asked url +
    ((p.members.filter fun m => m.1.source.key = url).map fun m => m.2.starts.length).sum
  clock_le : p.clock.nanos ≤ (w.afterAll (t.resolutionsOf w plan)).time.nanos
  start_le : w.time.nanos ≤ p.clock.nanos
  finish_le : ∀ m ∈ p.members, ∀ r, m.2 = .ended r → r.finish.nanos ≤ p.clock.nanos

variable {plan : Plan}

theorem sound_start (t : Transform) (w : World) (plan : Plan) :
    Sound t w plan (start w plan.images) := by
  have hmem {m : PlannedImage × Stage} (h : m ∈ (start w plan.images).members) :
      m.2 = .ofSource w.time m.1.source := by
    obtain ⟨image, -, rfl⟩ := List.mem_map.mp h
    rfl
  constructor
  case images =>
    simp [start, Function.comp_def]
  case comes =>
    intro m h
    rw [hmem h, endingOf_ofSource]
  case inTime =>
    intro m h
    rw [hmem h]
    exact inTime_ofSource m.1.source
  case asked =>
    intro url
    rw [List.sum_eq_zero, Nat.add_zero]
    · rfl
    · intro n hn
      obtain ⟨m, hm, rfl⟩ := List.mem_map.mp hn
      rw [hmem (List.mem_filter.mp hm).1, Stage.starts_ofSource, List.length_nil]
  case clock_le => exact (World.time_afterAll_le_iff.mp le_rfl).1
  case start_le => exact le_rfl
  case finish_le =>
    intro m h r hr
    rw [hmem h] at hr
    cases hsource : m.1.source <;> rw [hsource] at hr <;> cases hr

/-- Every turn keeps what is kept, if the images of the plan have different keys. -/
theorem Sound.turn (hkeys : (plan.images.map fun image => image.source.key).Nodup)
    (h : Sound t w plan p) (position : Nat) : Sound t w plan (p.turn t w position) := by
  obtain hsame | ⟨front, image, stage, back, hmembers, hturn⟩ := turn_cases t w p position
  · rw [hsame]
    exact h
  have hmem : (image, stage) ∈ p.members := by
    rw [hmembers]
    exact List.mem_append_right front List.mem_cons_self
  -- What holds of all images and of the one that has moved still holds of all.
  have hevery {P : PlannedImage × Stage → Prop} (hbefore : ∀ m ∈ p.members, P m)
      (hmoved : P (image, (t.move w image (p.asked image.source.key) stage).stage)) :
      ∀ m ∈ front ++ (image, (t.move w image (p.asked image.source.key) stage).stage) :: back,
        P m := by
    rw [hmembers] at hbefore
    intro m hm
    rw [List.mem_append, List.mem_cons] at hm
    obtain hm | rfl | hm := hm
    · exact hbefore m (List.mem_append_left _ hm)
    · exact hmoved
    · exact hbefore m (List.mem_append_right _ (List.mem_cons_of_mem _ hm))
  -- The image is the only one with its key, so all requests for its URL are its own.
  have hasked : p.asked image.source.key = w.asked image.source.key + stage.starts.length := by
    have hnodup : (p.members.map fun m => m.1.source.key).Nodup := by
      rw [← h.images, List.map_map] at hkeys
      exact hkeys
    rw [h.asked, filter_eq_singleton hnodup hmem, List.map_singleton, List.sum_singleton]
  have hcomes : t.endingOf w image
      (t.move w image (p.asked image.source.key) stage).stage = t.resolve w image := by
    rw [endingOf_move hasked, h.comes _ hmem]
  have htime : (t.move w image (p.asked image.source.key) stage).time.nanos ≤
      (w.afterAll (t.resolutionsOf w plan)).time.nanos := by
    refine (time_move_le (h.inTime _ hmem)).trans ?_
    rw [h.comes _ hmem]
    refine (World.time_afterAll_le_iff.mp le_rfl).2 (image, t.resolve w image) ?_
    refine List.mem_map_of_mem (f := fun image => (image, t.resolve w image)) ?_
    rw [← h.images]
    exact List.mem_map_of_mem hmem
  rw [hturn]
  constructor
  case images =>
    rw [← h.images, hmembers, List.map_append, List.map_append, List.map_cons, List.map_cons]
  case comes => exact hevery h.comes hcomes
  case inTime => exact hevery h.inTime (inTime_move (h.inTime _ hmem))
  case asked =>
    intro url
    have hbefore := h.asked url
    rw [hmembers, List.filter_append, List.map_append, List.sum_append, List.filter_cons]
      at hbefore
    rw [List.filter_append, List.map_append, List.sum_append, List.filter_cons]
    dsimp only
    by_cases hurl : image.source.key = url
    · rw [if_pos hurl.symm]
      simp only [hurl, decide_true, if_true, List.map_cons, List.sum_cons, length_starts_move]
        at hbefore ⊢
      omega
    · rw [if_neg (Ne.symm hurl)]
      simpa only [hurl, decide_false, Bool.false_eq_true, if_false] using hbefore
  case clock_le => exact max_le h.clock_le htime
  case start_le => exact h.start_le.trans (le_max_left _ _)
  case finish_le =>
    refine hevery (fun m hm r hr => ?_) fun r hr => ?_
    · exact (h.finish_le m hm r hr).trans (le_max_left _ _)
    · exact (finish_le_time_move hr).trans (le_max_right _ _)

/-- Any turns keep what is kept. -/
theorem Sound.turns (hkeys : (plan.images.map fun image => image.source.key).Nodup)
    (h : Sound t w plan p) (positions : List Nat) : Sound t w plan (p.turns t w positions) := by
  induction positions generalizing p with
  | nil => exact h
  | cons position rest ih => exact ih (h.turn hkeys position)

theorem Sound.eq_resolve (h : Sound t w plan p) {position : Nat} {image : PlannedImage}
    {r : Resolution} (hended : p.members[position]? = some (image, .ended r)) :
    plan.images[position]? = some image ∧ r = t.resolve w image := by
  constructor
  · rw [← h.images, List.getElem?_map, hended, Option.map_some]
  · rw [← h.comes _ (List.mem_of_getElem? hended)]
    rfl

/-- When all images have ended, each has come to its own resolution, all requests are those of the
resolutions, and the clock shows the last of their ends. -/
theorem Sound.ended (h : Sound t w plan p) {resolutions : List (PlannedImage × Resolution)}
    (hended : p.resolutions? = some resolutions) :
    resolutions = t.resolutionsOf w plan ∧ p.asked = (w.afterAll resolutions).asked ∧
      p.clock = (w.afterAll resolutions).time := by
  rw [resolutions?, mapM_eq_some_iff] at hended
  have hstage : ∀ m ∈ p.members, m = (m.1, .ended (t.resolve w m.1)) := by
    intro m hm
    have hsome : m.2.resolution?.map (m.1, ·) ∈ resolutions.map some := by
      rw [← hended]
      exact List.mem_map_of_mem (f := fun m => m.2.resolution?.map (m.1, ·)) hm
    obtain ⟨pair, -, hpair⟩ := List.mem_map.mp hsome
    obtain ⟨r, hr, -⟩ := Option.map_eq_some_iff.mp hpair.symm
    have hr := Stage.resolution?_eq_some_iff.mp hr
    have hcomes := h.comes m hm
    rw [hr, endingOf] at hcomes
    rw [← hcomes, ← hr]
  have hmembers : p.members = plan.images.map fun image => (image, .ended (t.resolve w image)) := by
    rw [← h.images, List.map_map]
    exact (List.map_id _).symm.trans (List.map_congr_left hstage)
  have hresolutions : resolutions = t.resolutionsOf w plan := by
    refine (List.map_inj_right fun _ _ => Option.some.inj).mp (hended.symm.trans ?_)
    rw [hmembers, List.map_map, resolutionsOf, List.map_map]
    rfl
  refine ⟨hresolutions, funext fun url => ?_, ?_⟩
  · rw [h.asked, World.asked_afterAll, hresolutions, resolutionsOf, hmembers, List.filter_map,
      List.filter_map, List.map_map, List.map_map]
    rfl
  · rw [hresolutions]
    refine congrArg Duration.mk (le_antisymm h.clock_le ?_)
    refine World.time_afterAll_le_iff.mpr ⟨h.start_le, fun r hr => ?_⟩
    obtain ⟨image, himage, rfl⟩ := List.mem_map.mp hr
    refine h.finish_le (image, .ended (t.resolve w image)) ?_ _ rfl
    rw [hmembers]
    exact List.mem_map_of_mem (f := fun image => (image, Stage.ended (t.resolve w image))) himage

end Progress

end Transform

end ImageImports
