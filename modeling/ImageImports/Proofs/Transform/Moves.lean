import ImageImports.Proofs.Fetch.Deadline
import ImageImports.Transform.Run
import Mathlib.Order.Basic

/-!
# The steps of an image

The images of a plan are resolved at one time. Each of them takes its own steps: it makes a request
when an attempt is due, and when the reply is there it ends or waits for the next attempt. A local
image is read in one step. The steps of different images come in any order, and all images ask one
transport, which counts the requests for a URL.

An image that has ended does nothing in its turns, and no image looks at what has become of another.

## Main definitions

* `Resolution.Stage`: how far an image has come.
* `Transform.move`: the next step of an image, when it happens, and how many requests it makes.
* `Transform.endingOf`: the resolution that an image comes to from a stage on.

## Main results

* `Transform.endingOf_move`: a step does not change what an image comes to.
* `Transform.rank_move_lt`: every step of an image brings it closer to its end.
* `Transform.time_move_le`, `Transform.finish_le_time_move`: steps happen up to the end of an image,
  and the last one then.
-/

namespace ImageImports

open Fetch

/-! ### Stages -/

namespace Fetch

/-- A run that has made some attempts before. -/
def Run.behind (starts : List Duration) (r : Run) : Run := { r with starts := starts ++ r.starts }

/-- When the reply to an attempt has been dealt with: on its arrival, unless that ends the fetch. -/
def Next.time (arrival : Duration) : Next → Duration
  | stop finish _ _ => finish
  | again _ => arrival

end Fetch

/-- What comes after an attempt whose reply is known. -/
def Fetcher.afterReply (f : Fetcher) (url : Url) (limit : Option Duration) (made : Nat)
    (start : Duration) (reply : Reply) : Next :=
  Fetcher.attempt { f with transport := fun _ _ => reply } url 0 limit made start

/-- What comes after an attempt depends on no other reply than its own. -/
theorem Fetcher.attempt_eq_afterReply (f : Fetcher) (url : Url) (asked : Nat)
    (limit : Option Duration) (made : Nat) (start : Duration) :
    f.attempt url asked limit made start =
      f.afterReply url limit made start (f.transport url (asked + made)) := rfl

namespace Resolution

/-- How far an image has come: its file is not read, its next attempt is due at a time, it has made
a request that has a number, or it has ended. -/
inductive Stage where
  | unread (path : Path)
  | due (url : Url) (starts : List Duration) (start : Duration)
  | asking (url : Url) (starts : List Duration) (start : Duration) (number : Nat)
  | ended (r : Resolution)

namespace Stage

/-- The stage of an image from which nobody has heard yet. -/
def ofSource (time : Duration) : Source → Stage
  | .local path => unread path
  | .remote url => due url [] time

/-- The starts of all attempts so far. -/
def starts : Stage → List Duration
  | unread _ => []
  | due _ starts _ => starts
  | asking _ starts start _ => starts ++ [start]
  | ended r => r.starts

/-- The resolution of an image that has ended. -/
def resolution? : Stage → Option Resolution
  | ended r => some r
  | _ => none

/-- How many steps are left at most. -/
def rank : Stage → Nat
  | unread _ => 1
  | due _ starts _ => 2 * (attemptLimit - starts.length) + 1
  | asking _ starts _ _ => 2 * (attemptLimit - (starts.length + 1)) + 2
  | ended _ => 0

/-- An attempt that is due or under way has started in time. -/
def InTime (limit : Option Duration) : Stage → Prop
  | due _ _ start | asking _ _ start _ => isPast limit start = false
  | unread _ | ended _ => True

theorem starts_ofSource (time : Duration) (source : Source) :
    (ofSource time source).starts = [] := by
  cases source <;> rfl

theorem rank_ofSource_le (time : Duration) (source : Source) :
    (ofSource time source).rank ≤ 2 * attemptLimit + 1 := by
  cases source with
  | «local» path => exact Nat.le_add_left 1 _
  | remote url => exact Nat.le_refl _

theorem resolution?_eq_some_iff {s : Stage} {r : Resolution} :
    s.resolution? = some r ↔ s = ended r := by
  cases s <;> simp [resolution?]

theorem eq_ended_of_rank {s : Stage} (h : s.rank = 0) : ∃ r, s = ended r := by
  cases s with
  | unread path => exact absurd h (Nat.succ_ne_zero _)
  | due url starts start => exact absurd h (Nat.succ_ne_zero _)
  | asking url starts start number => exact absurd h (Nat.succ_ne_zero _)
  | ended r => exact ⟨r, rfl⟩

end Stage

/-- A step of an image: the stage that it leads to, when it happens, and how many requests it
makes. -/
structure Move where
  stage : Stage
  time : Duration
  requests : Nat

end Resolution

namespace Transform

open Resolution

variable (t : Transform) (w : World) (image : PlannedImage)

/-! ### The steps of an image -/

/-- The time at which all images must have come to their end. -/
def limitOf : Option Duration := t.timeout.map (w.time + ·)

/-- The resolution of an image that is read. -/
def ofFile (path : Path) : Resolution := ⟨[], w.time, [], some (readLocal w.files path)⟩

/-- The resolution of an image that is fetched. -/
def ofRun (url : Url) (r : Run) : Resolution :=
  ⟨r.starts, r.finish, r.warnings,
    match r.ending with
    | .answered result => some (contentOf url result)
    | .cut => some (.error (.timeout image.reference (t.timeout.getD .zero)))
    | .panicked => none⟩

/-- The stage that follows what comes after an attempt. -/
def stageAfter (url : Url) (starts : List Duration) (start : Duration) : Next → Stage
  | .stop finish ending warnings =>
    .ended (t.ofRun image url ⟨starts ++ [start], finish, ending, warnings⟩)
  | .again next => .due url (starts ++ [start]) next

/-- The next step of an image whose URL was asked for as often, by whomever. -/
def move (asked : Nat) : Stage → Move
  | .unread path => ⟨.ended (ofFile w path), w.time, 0⟩
  | .due url starts start =>
    if starts.length < attemptLimit then ⟨.asking url starts start asked, start, 1⟩
    else ⟨.ended (t.ofRun image url ⟨starts, start, .panicked, []⟩), start, 0⟩
  | .asking url starts start number =>
    let reply := t.fetcher.transport url number
    let next := t.fetcher.afterReply url (t.limitOf w) starts.length start reply
    ⟨t.stageAfter image url starts start next, next.time (start + reply.stall), 0⟩
  | .ended r => ⟨.ended r, r.finish, 0⟩

/-- The resolution of an image whose next attempt is due, if nobody else asks for its URL. -/
def endingOfDue (url : Url) (starts : List Duration) (start : Duration) : Resolution :=
  t.ofRun image url ((t.fetcher.attempts url (w.asked image.source.key) (t.limitOf w)
    (attemptLimit - starts.length) starts.length start).behind starts)

/-- The resolution that an image comes to from a stage on, if nobody else asks for its URL. -/
def endingOf : Stage → Resolution
  | .unread path => ofFile w path
  | .due url starts start => t.endingOfDue w image url starts start
  | .asking url starts start number =>
    match t.fetcher.afterReply url (t.limitOf w) starts.length start
      (t.fetcher.transport url number) with
    | .stop finish ending warnings =>
      t.ofRun image url ⟨starts ++ [start], finish, ending, warnings⟩
    | .again next => t.endingOfDue w image url (starts ++ [start]) next
  | .ended r => r

variable {t w image}

/-- An image from which nobody has heard yet comes to its resolution. -/
theorem endingOf_ofSource : t.endingOf w image (.ofSource w.time image.source) =
    t.resolve w image := by
  cases hsource : image.source with
  | «local» path =>
    simp only [resolve, hsource]
    rfl
  | remote url =>
    simp only [resolve, hsource, Stage.ofSource, endingOf, endingOfDue, List.length_nil,
      Nat.sub_zero, Run.behind, List.nil_append]
    rfl

/-- An attempt comes to what follows the reply to its request. -/
theorem endingOfDue_eq {url : Url} {starts : List Duration} {start : Duration}
    (hlimit : starts.length < attemptLimit) :
    t.endingOfDue w image url starts start = t.endingOf w image
      (.asking url starts start (w.asked image.source.key + starts.length)) := by
  have hleft : attemptLimit - starts.length = attemptLimit - (starts.length + 1) + 1 := by omega
  rw [endingOfDue, hleft, Fetcher.attempts, Fetcher.attempt_eq_afterReply, endingOf]
  cases t.fetcher.afterReply url (t.limitOf w) starts.length start
    (t.fetcher.transport url (w.asked image.source.key + starts.length)) with
  | stop finish ending warnings => rfl
  | again next =>
    simp only [endingOfDue, Run.behind, Run.after, List.length_append, List.length_singleton,
      List.append_assoc, List.singleton_append]

/-- A step does not change what an image comes to, if nobody else has asked for its URL. -/
theorem endingOf_move {asked : Nat} {s : Stage}
    (hasked : asked = w.asked image.source.key + s.starts.length) :
    t.endingOf w image (t.move w image asked s).stage = t.endingOf w image s := by
  subst hasked
  cases s with
  | unread path => rfl
  | due url starts start =>
    rw [move]
    split
    next hlimit => exact (endingOfDue_eq hlimit).symm
    next hlimit =>
      have hnone : attemptLimit - starts.length = 0 := by omega
      rw [endingOf, endingOf, endingOfDue, hnone, Fetcher.attempts, Run.behind, List.append_nil]
  | asking url starts start number =>
    rw [move, endingOf]
    cases t.fetcher.afterReply url (t.limitOf w) starts.length start
      (t.fetcher.transport url number) <;> rfl
  | ended r => rfl

theorem length_starts_move (asked : Nat) (s : Stage) :
    (t.move w image asked s).stage.starts.length =
      s.starts.length + (t.move w image asked s).requests := by
  cases s with
  | unread path => rfl
  | due url starts start =>
    rw [move]
    split
    · exact List.length_append
    · rfl
  | asking url starts start number =>
    rw [move]
    cases t.fetcher.afterReply url (t.limitOf w) starts.length start
      (t.fetcher.transport url number) <;> rfl
  | ended r => rfl

/-- Every step of an image brings it closer to its end. -/
theorem rank_move_lt (asked : Nat) {s : Stage} (h : 0 < s.rank) :
    (t.move w image asked s).stage.rank < s.rank := by
  cases s with
  | unread path => exact h
  | due url starts start =>
    rw [move]
    split
    next hlimit =>
      simp only [Stage.rank]
      omega
    next => exact h
  | asking url starts start number =>
    rw [move]
    cases t.fetcher.afterReply url (t.limitOf w) starts.length start
      (t.fetcher.transport url number) with
    | stop finish ending warnings => exact h
    | again next =>
      simp only [stageAfter, Stage.rank, List.length_append, List.length_singleton]
      omega
  | ended r => exact absurd h (Nat.lt_irrefl 0)

/-! ### The times of the steps -/

theorem inTime_ofSource (source : Source) :
    (Stage.ofSource w.time source).InTime (t.limitOf w) := by
  cases source with
  | «local» path => trivial
  | remote url =>
    change isPast (t.timeout.map (w.time + ·)) w.time = false
    cases t.timeout with
    | none => rfl
    | some limit => exact Fetcher.isPast_some_eq_false_iff.mpr (Nat.le_add_right _ _)

theorem inTime_move {asked : Nat} {s : Stage} (h : s.InTime (t.limitOf w)) :
    (t.move w image asked s).stage.InTime (t.limitOf w) := by
  cases s with
  | unread path => trivial
  | due url starts start =>
    rw [move]
    split
    · exact h
    · trivial
  | asking url starts start number =>
    rw [move]
    cases hnext : t.fetcher.afterReply url (t.limitOf w) starts.length start
      (t.fetcher.transport url number) with
    | stop finish ending warnings => trivial
    | again next => exact (Fetcher.le_of_attempt_eq_again hnext).2
  | ended r => trivial

/-- A step does not happen after the time at which its image comes to its end. -/
theorem time_move_le {asked : Nat} {s : Stage} (h : s.InTime (t.limitOf w)) :
    (t.move w image asked s).time.nanos ≤ (t.endingOf w image s).finish.nanos := by
  cases s with
  | unread path => exact Nat.le_refl _
  | due url starts start =>
    have hstart : start.nanos ≤ (t.endingOfDue w image url starts start).finish.nanos :=
      Fetcher.le_finish_attempts h
    rw [move]
    split <;> exact hstart
  | asking url starts start number =>
    rw [move, endingOf]
    cases hnext : t.fetcher.afterReply url (t.limitOf w) starts.length start
      (t.fetcher.transport url number) with
    | stop finish ending warnings => exact Nat.le_refl _
    | again next =>
      obtain ⟨hreply, htime⟩ := Fetcher.le_of_attempt_eq_again hnext
      exact Nat.le_trans hreply (Fetcher.le_finish_attempts htime)
  | ended r => exact Nat.le_refl _

/-- The step that ends an image happens when the image comes to its end. -/
theorem finish_le_time_move {asked : Nat} {s : Stage} {r : Resolution}
    (h : (t.move w image asked s).stage = .ended r) :
    r.finish.nanos ≤ (t.move w image asked s).time.nanos := by
  cases s with
  | unread path =>
    obtain rfl := Stage.ended.inj h
    exact Nat.le_refl _
  | due url starts start =>
    rw [move] at h ⊢
    split at h
    · cases h
    next hlimit =>
      obtain rfl := Stage.ended.inj h
      rw [if_neg hlimit]
      exact Nat.le_refl _
  | asking url starts start number =>
    rw [move] at h ⊢
    cases hnext : t.fetcher.afterReply url (t.limitOf w) starts.length start
      (t.fetcher.transport url number) with
    | stop finish ending warnings =>
      simp only [hnext] at h
      obtain rfl := Stage.ended.inj h
      exact Nat.le_refl _
    | again next =>
      simp only [hnext] at h
      cases h
  | ended last =>
    obtain rfl := Stage.ended.inj h
    exact Nat.le_refl _

end Transform

end ImageImports
