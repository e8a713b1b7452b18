import ImageImports.Proofs.Plan.References
import Mathlib.Data.Finset.Card

/-!
# Plans as deduplication

The images of a plan have different keys, and every key of a reference is that of an image. Each
image is that of the first reference with its key, and the images are in the order of these
references. Two references mean one image just when they have one key.

## Main definitions

* `Plan.firstAt`: the position of the first reference with a key.
* `Plan.keyCount`: how many keys some references have.
* `Plan.Deduplicates`: the images of a plan are those of some references, one for each key.

## Main results

* `Plan.Lists.deduplicates`: a plan that lists the images of references deduplicates them.
* `Plan.Deduplicates.length_images`: there are as many images as keys.
-/

namespace ImageImports.Plan

variable (ascii : Url.ToAscii) (base : Path)

/-- The position of the first reference with a key. -/
def firstAt (references : List String) (key : String) : Nat :=
  references.findIdx fun reference => keyOf ascii base reference == key

/-- How many keys some references have. -/
def keyCount (references : List String) : Nat := (references.map (keyOf ascii base)).toFinset.card

theorem keyCount_eq_zero_iff {references : List String} :
    keyCount ascii base references = 0 ↔ references = [] := by
  rw [keyCount, Finset.card_eq_zero, List.toFinset_eq_empty_iff, List.map_eq_nil_iff]

theorem firstAt_cons_self (first : String) (rest : List String) :
    firstAt ascii base (first :: rest) (keyOf ascii base first) = 0 := by
  rw [firstAt, List.findIdx_cons, beq_self_eq_true]
  rfl

theorem firstAt_cons_of_ne {first key : String} (h : key ≠ keyOf ascii base first)
    (rest : List String) :
    firstAt ascii base (first :: rest) key = firstAt ascii base rest key + 1 := by
  rw [firstAt, List.findIdx_cons, beq_false_of_ne h.symm]
  rfl

/-- The images of a plan are those of some references, one for each key: that of the first
reference with the key, in the order in which the references come. Every reference means the image
with its key, and nothing else means any. -/
structure Deduplicates (references : List String) (p : Plan) : Prop where
  keys : (p.images.map fun image => image.source.key).Nodup
  first : ∀ image ∈ p.images, image = imageOf ascii base image.reference ∧
    references[firstAt ascii base references image.source.key]? = some image.reference
  order : p.images.Pairwise fun image other =>
    firstAt ascii base references image.source.key < firstAt ascii base references other.source.key
  indexed : ∀ reference ∈ references, ∃ position image, p.indexOf? reference = some position ∧
    p.images[position]? = some image ∧ image.source.key = keyOf ascii base reference
  same : ∀ reference ∈ references, ∀ other ∈ references,
    p.indexOf? reference = p.indexOf? other ↔ keyOf ascii base reference = keyOf ascii base other
  unknown : ∀ reference, reference ∉ references → p.indexOf? reference = none

variable {ascii base} {references : List String} {p : Plan}

theorem getElem?_firstAt_of_mem_firsts {image : PlannedImage}
    (h : image ∈ firsts ascii base references) :
    references[firstAt ascii base references image.source.key]? = some image.reference := by
  induction references with
  | nil => cases h
  | cons first rest ih =>
    rw [firsts, List.mem_cons, List.mem_filter, bne_iff_ne] at h
    rcases h with rfl | ⟨hmem, hne⟩
    · change
        (first :: rest)[firstAt ascii base (first :: rest) (keyOf ascii base first)]? = some first
      rw [firstAt_cons_self, List.getElem?_cons_zero]
    · rw [firstAt_cons_of_ne ascii base hne, List.getElem?_cons_succ, ih hmem]

variable (ascii base references) in
theorem pairwise_firsts : (firsts ascii base references).Pairwise fun image other =>
    firstAt ascii base references image.source.key <
      firstAt ascii base references other.source.key := by
  induction references with
  | nil => exact .nil
  | cons first rest ih =>
    have hlater : ∀ image ∈ (firsts ascii base rest).filter
        fun other => other.source.key != keyOf ascii base first,
          firstAt ascii base (first :: rest) image.source.key =
            firstAt ascii base rest image.source.key + 1 :=
      fun image hmem =>
        firstAt_cons_of_ne ascii base (bne_iff_ne.mp (List.mem_filter.mp hmem).2) rest
    have hkey : (imageOf ascii base first).source.key = keyOf ascii base first := rfl
    rw [firsts, List.pairwise_cons]
    constructor
    · intro image hmem
      rw [hlater image hmem, hkey, firstAt_cons_self]
      exact Nat.succ_pos _
    · refine List.Pairwise.imp_of_mem ?_ (ih.filter _)
      intro image other hmem hother hlt
      rw [hlater image hmem, hlater other hother]
      exact Nat.succ_lt_succ hlt

/-- A plan that lists the images of references deduplicates them. -/
theorem Lists.deduplicates (h : Lists ascii base references p) :
    Deduplicates ascii base references p := by
  have horder : p.images.Pairwise fun image other =>
      firstAt ascii base references image.source.key <
        firstAt ascii base references other.source.key := by
    rw [h.images]
    exact pairwise_firsts ascii base references
  have hkeys : (p.images.map fun image => image.source.key).Nodup :=
    List.pairwise_map.mpr (horder.imp fun {image other} hlt heq => by
      rw [heq] at hlt
      exact Nat.lt_irrefl _ hlt)
  refine ⟨hkeys, fun image hmem => ?_, horder, h.indexed, fun reference hr other ho => ?_,
    h.unknown⟩
  · rw [h.images] at hmem
    obtain ⟨reference, -, rfl⟩ := exists_of_mem_firsts ascii base hmem
    exact ⟨rfl, getElem?_firstAt_of_mem_firsts hmem⟩
  · obtain ⟨i, image, hindex, himage, hkey⟩ := h.indexed reference hr
    obtain ⟨j, image', hindex', himage', hkey'⟩ := h.indexed other ho
    rw [hindex, hindex', Option.some.injEq, ← hkey, ← hkey']
    constructor
    · rintro rfl
      rw [Option.some.inj (himage.symm.trans himage')]
    · intro hsame
      have hat : (p.images.map fun image => image.source.key)[i]? =
          (p.images.map fun image => image.source.key)[j]? := by
        rw [List.getElem?_map, List.getElem?_map, himage, himage', Option.map_some,
          Option.map_some, hsame]
      refine (List.getElem?_inj ?_ hkeys).mp hat
      rw [List.length_map]
      exact (List.getElem?_eq_some_iff.mp himage).1

namespace Deduplicates

variable (h : Deduplicates ascii base references p)

include h

/-- The keys of the images are those of the references. -/
theorem exists_image_iff (key : String) : (∃ image ∈ p.images, image.source.key = key) ↔
    ∃ reference ∈ references, keyOf ascii base reference = key := by
  constructor
  · rintro ⟨image, hmem, rfl⟩
    obtain ⟨himage, hfirst⟩ := h.first image hmem
    exact ⟨image.reference, List.mem_of_getElem? hfirst, by rw [keyOf, ← himage]⟩
  · rintro ⟨reference, hmem, rfl⟩
    obtain ⟨position, image, -, himage, hkey⟩ := h.indexed reference hmem
    exact ⟨image, List.mem_of_getElem? himage, hkey⟩

/-- There are as many images as different keys of references. -/
theorem length_images : p.images.length = keyCount ascii base references := by
  have hsame : (references.map (keyOf ascii base)).toFinset =
      (p.images.map fun image => image.source.key).toFinset := by
    ext key
    simpa using (h.exists_image_iff key).symm
  rw [keyCount, hsame, List.toFinset_card_of_nodup h.keys, List.length_map]

end Deduplicates

end ImageImports.Plan
