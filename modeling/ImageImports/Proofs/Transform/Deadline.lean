import ImageImports.Proofs.Fetch.Network
import ImageImports.Proofs.Transform.AnyOrder

/-!
# The deadline of an image

The deadline of an image is one for its whole resolution: for all attempts, however long each of
them stalls, and for all waits between them. If the resolution would end before the deadline, the
deadline changes nothing. If it would end after it, or never, the image has timed out at the
deadline, and the attempts that are made are those that start up to then.

A file is read at once. A fetch is told over a network that may leave requests without an answer, so
there are resolutions that never end.

## Main definitions

* `Transform.LoadsOver`: when the resolution of an image without a deadline ends, and its result.

## Main results

* `Transform.resolve_of_loadsOver`: resolutions that end before the deadline.
* `Transform.timeout_of_forall_loadsOver`: resolutions that do not.
* `Transform.deadline_covers_resolution`: both, the attempts that are made, and the reference that
  an image which has timed out is told by.
-/

namespace ImageImports.Transform

open Fetch

/-- When the resolution of an image over a network ends if there is no deadline, and its result. A
file is read at once, and a fetch that panics ends without a result. No end is told of a fetch that
has none. -/
inductive LoadsOver (t : Transform) (n : Network) (w : World) (image : PlannedImage) :
    Duration → Option (Except TransformError ByteArray) → Prop
  | read {path : Path} (hsource : image.source = .local path) :
      LoadsOver t n w image w.time (some (readLocal w.files path))
  | fetched {url : Url} {finish : Duration} {result : Except FetchError Response}
      (hsource : image.source = .remote url)
      (h : t.fetcher.EndsFrom n url (w.asked url.render) 0 w.time finish (.answered result)) :
      LoadsOver t n w image finish (some (contentOf url result))
  | panicked {url : Url} {finish : Duration} (hsource : image.source = .remote url)
      (h : t.fetcher.EndsFrom n url (w.asked url.render) 0 w.time finish .panicked) :
      LoadsOver t n w image finish none

variable {t : Transform} {n : Network} {w : World} {image : PlannedImage} {timeout : Duration}

/-- A run that is not cut gives the same resolution whatever the deadline is. -/
theorem ofRun_of_ending {url : Url} {r : Run} (h : r.ending ≠ .cut) :
    ofRun { t with timeout := none } image url r = t.ofRun image url r := by
  unfold ofRun
  cases hending : r.ending with
  | answered result => rfl
  | cut => exact absurd hending h
  | panicked => rfl

theorem result_of_cut (htimeout : t.timeout = some timeout) {url : Url} {r : Run}
    (h : r.ending = .cut) :
    (t.ofRun image url r).result = some (.error (.timeout image.reference timeout)) := by
  rw [ofRun, h, htimeout]
  rfl

theorem limitOf_eq (htimeout : t.timeout = some timeout) :
    t.limitOf w = some (w.time + timeout) := by
  rw [limitOf, htimeout]
  rfl

section

variable (htimeout : t.timeout = some timeout) (hshown : n.ShownBy timeout t.fetcher.transport)

include htimeout hshown

/-- A fetch that ends before the deadline is the one without a deadline. -/
theorem resolve_of_endsFrom {url : Url} {finish : Duration} {ending : Ending}
    (hsource : image.source = .remote url)
    (h : t.fetcher.EndsFrom n url (w.asked url.render) 0 w.time finish ending)
    (hfinish : finish.nanos ≤ (w.time + timeout).nanos) :
    t.resolve w image = resolve { t with timeout := none } w image ∧
      ∃ r : Run, t.resolve w image = t.ofRun image url r ∧ r.finish = finish ∧
        r.ending = ending := by
  have hfree : ((t.fetcher.fetch url (w.asked url.render) w.time none).finish = finish) ∧
      (t.fetcher.fetch url (w.asked url.render) w.time none).ending = ending :=
    Fetcher.finish_of_endsFrom hshown.reply h rfl (Nat.zero_add attemptLimit)
  have hlimited : t.fetcher.fetch url (w.asked url.render) w.time (t.limitOf w) =
      t.fetcher.fetch url (w.asked url.render) w.time none := by
    rw [limitOf_eq htimeout]
    refine Fetcher.attempts_limit_of_le (Nat.le_trans (Nat.le_of_eq ?_) hfinish)
    exact congrArg Duration.nanos hfree.1
  rw [resolve_remote hsource, resolve_remote hsource, hlimited]
  refine ⟨(ofRun_of_ending ?_).symm, _, rfl, hfree⟩
  rw [hfree.2]
  exact h.ne_cut

/-- A resolution that ends before the deadline is the one without a deadline. -/
theorem resolve_of_loadsOver {finish : Duration}
    {result : Option (Except TransformError ByteArray)}
    (h : t.LoadsOver n w image finish result) (hfinish : finish.nanos < (w.time + timeout).nanos) :
    t.resolve w image = resolve { t with timeout := none } w image ∧
      (t.resolve w image).finish = finish ∧ (t.resolve w image).result = result := by
  have hfinish := Nat.le_of_lt hfinish
  cases h with
  | read hsource => rw [resolve_local hsource, resolve_local hsource]; exact ⟨rfl, rfl, rfl⟩
  | fetched hsource h =>
    obtain ⟨hfree, r, hresolve, rfl, hending⟩ :=
      resolve_of_endsFrom htimeout hshown hsource h hfinish
    refine ⟨hfree, by rw [hresolve]; rfl, ?_⟩
    rw [hresolve, ofRun, hending]
  | panicked hsource h =>
    obtain ⟨hfree, r, hresolve, rfl, hending⟩ :=
      resolve_of_endsFrom htimeout hshown hsource h hfinish
    refine ⟨hfree, by rw [hresolve]; rfl, ?_⟩
    rw [hresolve, ofRun, hending]

/-- An image whose resolution would end after the deadline, or never, has timed out then. -/
theorem timeout_of_forall_loadsOver
    (h : ∀ finish result, t.LoadsOver n w image finish result →
      (w.time + timeout).nanos < finish.nanos) :
    (t.resolve w image).finish = w.time + timeout ∧
      (t.resolve w image).result = some (.error (.timeout image.reference timeout)) := by
  cases hsource : image.source with
  | «local» path =>
    have hlate := h _ _ (.read hsource)
    exact absurd hlate (Nat.not_lt_of_le (Nat.le_add_right _ _))
  | remote url =>
    have hends : ∀ finish ending, t.fetcher.EndsFrom n url (w.asked url.render) 0 w.time finish
        ending → (w.time + timeout).nanos < finish.nanos := by
      intro finish ending hend
      cases ending with
      | answered result => exact h _ _ (.fetched hsource hend)
      | cut => exact absurd rfl hend.ne_cut
      | panicked => exact h _ _ (.panicked hsource hend)
    obtain ⟨hfinish, hending⟩ := Fetcher.cut_of_forall_endsFrom hshown (Nat.le_refl _)
      (Nat.le_add_right _ _) hends (Nat.zero_add attemptLimit)
    rw [resolve_remote hsource, limitOf_eq htimeout]
    exact ⟨hfinish, result_of_cut htimeout hending⟩

end

/-- The deadline of an image is one for its whole resolution. Let a network answer requests or not,
and let the transport be one that can be taken for it up to the deadline. If the resolution would
end before the deadline, it is what it is without one. If it would end after the deadline, or never,
the image has timed out at the deadline, whatever the attempts before it were answered. In either
case the attempts are those which the fetch comes to without a deadline and which start up to it.
The reference that an image of a plan is told by is the first one with its key. -/
theorem deadline_covers_resolution (t : Transform) (n : Network) (w : World) (image : PlannedImage)
    (timeout : Duration) (htimeout : t.timeout = some timeout)
    (hshown : n.ShownBy timeout t.fetcher.transport) :
    (∀ finish result, t.LoadsOver n w image finish result →
      finish.nanos < (w.time + timeout).nanos →
      t.resolve w image = resolve { t with timeout := none } w image ∧
        (t.resolve w image).finish = finish ∧ (t.resolve w image).result = result) ∧
    ((∀ finish result, t.LoadsOver n w image finish result →
        (w.time + timeout).nanos < finish.nanos) →
      (t.resolve w image).finish = w.time + timeout ∧
        (t.resolve w image).result = some (.error (.timeout image.reference timeout))) ∧
    (∀ url, image.source = .remote url → ∀ (made : Nat) (time : Duration),
      (t.resolve w image).starts[made]? = some time ↔
        made < attemptLimit ∧
          t.fetcher.ComesTo n url (w.asked url.render) w.time made time ∧
          time.nanos ≤ (w.time + timeout).nanos) ∧
    ∀ ascii base references, image ∈ (Plan.ofReferences ascii base references).images →
      references[Plan.firstAt ascii base references image.source.key]? =
        some image.reference := by
  refine ⟨fun _ _ hload hfinish => resolve_of_loadsOver htimeout hshown hload hfinish,
    timeout_of_forall_loadsOver htimeout hshown, fun url hsource made time => ?_,
    fun ascii base references hmem => ?_⟩
  · rw [resolve_remote hsource, limitOf_eq htimeout]
    exact Fetcher.getElem?_starts_iff hshown
  · have hplan : (Plan.ofReferences ascii base references).Deduplicates ascii base references :=
      (Plan.lists_ofReferences references).deduplicates
    exact (hplan.first image hmem).2

/-- A network that asks for three seconds of patience at first. After that it serves a cat, and for
anything else it is silent. -/
def reluctant : Network := fun url asked =>
  match asked with
  | 0 => some ⟨.ofSeconds 1, .ok ⟨503, [("Retry-After", "3")], none⟩⟩
  | _ =>
    if url.path = "/cat.png" then some ⟨.ofSeconds 1, .ok ⟨200, [], some ⟨#[7]⟩⟩⟩ else none

/-- A transform with a deadline of ten seconds, over a transport that gives up after a minute. -/
def patient : Transform where
  cache := ⟨.ofText "/c", .hex, true⟩
  ascii := .ofAscii
  fetcher :=
    ⟨fun url asked => (reluctant url asked).getD
        ⟨.ofSeconds 60, .error (.transport url.render "connection reset")⟩,
      .ofStatuses 5 (.fixed .zero) [503], fun time => ⟨time.nanos⟩⟩
  factoryPattern := ⟨.chars (.single 'j')⟩
  identifiers := .counter
  timeout := some (.ofSeconds 10)

/-- The cat is there after five seconds, long before the deadline. What is never answered times out
after ten, although its first attempt was answered at once. -/
theorem deadline_covers_resolution_reluctant :
    let w : World := ⟨⟨[]⟩, none, .zero, fun _ => 0⟩
    let cat : PlannedImage := ⟨"https://a.test/cat.png",
      .remote ⟨"https", some (.ofHost (.named "a.test")), "/cat.png", none, none⟩, ".png"⟩
    let dog : PlannedImage := ⟨"https://a.test/dog.png",
      .remote ⟨"https", some (.ofHost (.named "a.test")), "/dog.png", none, none⟩, ".png"⟩
    reluctant.ShownBy (.ofSeconds 10) patient.fetcher.transport ∧
      patient.LoadsOver reluctant w cat (.ofSeconds 5) (some (.ok ⟨#[7]⟩)) ∧
      (patient.resolve w cat).result = some (.ok ⟨#[7]⟩) ∧
      (∀ finish result, ¬ patient.LoadsOver reluctant w dog finish result) ∧
      (patient.resolve w dog).finish = .zero + .ofSeconds 10 ∧
      (patient.resolve w dog).result =
        some (.error (.timeout "https://a.test/dog.png" (.ofSeconds 10))) := by
  intro w cat dog
  have hshown : reluctant.ShownBy (.ofSeconds 10) patient.fetcher.transport := by
    refine ⟨fun {url asked reply} h => ?_, fun {url asked} h => ?_⟩
    · change (reluctant url asked).getD _ = reply
      rw [h, Option.getD_some]
    · change _ < ((reluctant url asked).getD _).stall.nanos
      rw [h, Option.getD_none]
      exact show (Duration.ofSeconds 10).nanos < (Duration.ofSeconds 60).nanos by decide
  have hwait (url : Url) : patient.fetcher.verdict url
      (patient.fetcher.clock (.zero + .ofSeconds 1)) 1
      (.ok ⟨503, [("Retry-After", "3")], none⟩) = .wait (.ofSeconds 3) := by
    rfl
  have hreply : reluctant ⟨"https", some (.ofHost (.named "a.test")), "/cat.png", none, none⟩
      (0 + 1) = some ⟨.ofSeconds 1, .ok ⟨200, [], some ⟨#[7]⟩⟩⟩ := rfl
  have hsecond : patient.fetcher.EndsFrom reluctant
      ⟨"https", some (.ofHost (.named "a.test")), "/cat.png", none, none⟩ 0 1
      (.zero + .ofSeconds 1 + .ofSeconds 3) (.ofSeconds 5)
      (.answered (.ok ⟨200, [], some ⟨#[7]⟩⟩)) :=
    .answered (show 1 < attemptLimit by decide) hreply rfl
  have hserved : patient.fetcher.EndsFrom reluctant
      ⟨"https", some (.ofHost (.named "a.test")), "/cat.png", none, none⟩ (w.asked cat.reference) 0
      w.time (.ofSeconds 5) (.answered (.ok ⟨200, [], some ⟨#[7]⟩⟩)) :=
    .later (show 0 < attemptLimit by decide) rfl (hwait _) hsecond
  have hcat : patient.LoadsOver reluctant w cat (.ofSeconds 5) (some (.ok ⟨#[7]⟩)) :=
    LoadsOver.fetched (t := patient) (n := reluctant) (w := w) rfl hserved
  have hsilent : ∀ finish ending, ¬ patient.fetcher.EndsFrom reluctant
      ⟨"https", some (.ofHost (.named "a.test")), "/dog.png", none, none⟩ 0 0 .zero finish
      ending := by
    intro finish ending h
    cases h with
    | answered _ hreply hstop =>
      obtain rfl := Option.some.inj hreply
      cases (hwait _).symm.trans hstop
    | later _ hreply _ h =>
      -- The second request is never answered.
      cases h with
      | answered _ hreply _ => cases hreply
      | later _ hreply _ _ => cases hreply
      | panicked hlimit => exact absurd hlimit (by decide)
    | panicked hlimit => exact absurd hlimit (by decide)
  have hdog : ∀ finish result, ¬ patient.LoadsOver reluctant w dog finish result := by
    intro finish result h
    cases h with
    | read hsource => cases hsource
    | fetched hsource h =>
      obtain rfl := Source.remote.inj hsource
      exact hsilent _ _ h
    | panicked hsource h =>
      obtain rfl := Source.remote.inj hsource
      exact hsilent _ _ h
  obtain ⟨hfinish, hresult⟩ := (deadline_covers_resolution patient reluctant w dog (.ofSeconds 10)
    rfl hshown).2.1 fun finish result h => absurd h (hdog finish result)
  exact ⟨hshown, hcat, ((deadline_covers_resolution patient reluctant w cat (.ofSeconds 10) rfl
    hshown).1 _ _ hcat (by decide)).2.2, hdog, hfinish, hresult⟩

end ImageImports.Transform
