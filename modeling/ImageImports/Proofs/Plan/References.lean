import ImageImports.Plan
import Mathlib.Data.List.Induction

/-!
# The images of a list of references

A plan is made one reference after another. At every time it lists one image for each key, in the
order in which the keys were met, and it knows the position of the image of every reference that
was met.

## Main definitions

* `Plan.firsts`: the images of the references that are the first with their key.
* `Plan.Lists`: a plan lists the images of some references and indexes these references only.

## Main results

* `Plan.Lists.add`: one more reference.
* `Plan.lists_ofReferences`: the plan of a list of references lists their images.
-/

namespace ImageImports.Plan

variable (ascii : Url.ToAscii) (base : Path)

/-- The text by which the image of a reference is told from others. -/
def keyOf (reference : String) : String := (imageOf ascii base reference).source.key

/-- The images of the references that are the first ones with their key. -/
def firsts : List String → List PlannedImage
  | [] => []
  | reference :: rest =>
    imageOf ascii base reference ::
      (firsts rest).filter fun image => image.source.key != keyOf ascii base reference

theorem exists_of_mem_firsts {references : List String} {image : PlannedImage}
    (h : image ∈ firsts ascii base references) :
    ∃ reference ∈ references, image = imageOf ascii base reference := by
  induction references with
  | nil => simp [firsts] at h
  | cons first rest ih =>
    rw [firsts, List.mem_cons] at h
    rcases h with rfl | h
    · exact ⟨first, List.mem_cons_self, rfl⟩
    · obtain ⟨reference, hmem, himage⟩ := ih (List.mem_filter.mp h).1
      exact ⟨reference, List.mem_cons_of_mem _ hmem, himage⟩

/-- One more reference adds its image unless its key was met before. -/
theorem firsts_concat (references : List String) (last : String) :
    firsts ascii base (references ++ [last]) =
      if ∃ reference ∈ references, keyOf ascii base reference = keyOf ascii base last then
        firsts ascii base references
      else firsts ascii base references ++ [imageOf ascii base last] := by
  induction references with
  | nil => simp [firsts]
  | cons first rest ih =>
    rw [List.cons_append, firsts, ih, firsts]
    by_cases hrest : ∃ reference ∈ rest, keyOf ascii base reference = keyOf ascii base last
    · have hall :
          ∃ reference ∈ first :: rest, keyOf ascii base reference = keyOf ascii base last := by
        obtain ⟨reference, hmem, hkey⟩ := hrest
        exact ⟨reference, List.mem_cons_of_mem _ hmem, hkey⟩
      rw [if_pos hrest, if_pos hall]
    · rw [if_neg hrest, List.filter_append]
      by_cases hfirst : keyOf ascii base first = keyOf ascii base last
      · rw [if_pos ⟨first, List.mem_cons_self, hfirst⟩]
        have hlast : (imageOf ascii base last).source.key = keyOf ascii base first := hfirst.symm
        simp [hlast]
      · have hall :
            ¬∃ reference ∈ first :: rest, keyOf ascii base reference = keyOf ascii base last := by
          rintro ⟨reference, hmem, hkey⟩
          rcases List.mem_cons.mp hmem with rfl | hmem
          · exact hfirst hkey
          · exact hrest ⟨reference, hmem, hkey⟩
        have hlast : (imageOf ascii base last).source.key ≠ keyOf ascii base first := Ne.symm hfirst
        rw [if_neg hall]
        simp [hlast]

/-- A plan lists the images of some references, and knows the images of these references only. -/
structure Lists (references : List String) (p : Plan) : Prop where
  images : p.images = firsts ascii base references
  indexed : ∀ reference ∈ references, ∃ position image,
    p.indexOf? reference = some position ∧ p.images[position]? = some image ∧
      image.source.key = keyOf ascii base reference
  unknown : ∀ reference, reference ∉ references → p.indexOf? reference = none

variable {ascii base}

/-- The position of a reference in an index with one more entry. -/
theorem indexOf?_concat (images : List PlannedImage) (index : List (String × Nat))
    (last reference : String) (position : Nat) :
    indexOf? ⟨images, index ++ [(last, position)]⟩ reference =
      (index.lookup reference).or (if reference = last then some position else none) := by
  rw [indexOf?, List.lookup_append]
  by_cases h : reference = last
  · simp [h]
  · have hb : (reference == last) = false := by simpa using h
    simp [List.lookup_cons, hb, h]

namespace Lists

variable {references : List String} {p : Plan} (h : Lists ascii base references p)

include h

theorem mem_of_isSome {reference : String} (hsome : (p.indexOf? reference).isSome = true) :
    reference ∈ references := by
  by_contra hmem
  rw [h.unknown reference hmem] at hsome
  exact absurd hsome (by simp)

theorem isSome_iff (reference : String) :
    (p.indexOf? reference).isSome = true ↔ reference ∈ references := by
  refine ⟨h.mem_of_isSome, fun hmem => ?_⟩
  obtain ⟨position, -, hindex, -, -⟩ := h.indexed reference hmem
  rw [hindex, Option.isSome_some]

/-- A plan with one more reference at a position where its image stands. -/
theorem concat {last : String} {images : List PlannedImage} {position : Nat}
    (hlast : last ∉ references) (himages : images = firsts ascii base (references ++ [last]))
    (hsame : ∀ (i : Nat) image, p.images[i]? = some image → images[i]? = some image)
    (hposition :
      ∃ image, images[position]? = some image ∧ image.source.key = keyOf ascii base last) :
    Lists ascii base (references ++ [last]) ⟨images, p.index ++ [(last, position)]⟩ where
  images := himages
  indexed := by
    intro reference hmem
    rcases List.mem_append.mp hmem with hmem | hmem
    · obtain ⟨i, image, hindex, himage, hkey⟩ := h.indexed reference hmem
      refine ⟨i, image, ?_, hsame i image himage, hkey⟩
      rw [indexOf?_concat, ← indexOf?, hindex, Option.some_or]
    · rw [List.mem_singleton] at hmem
      subst hmem
      obtain ⟨image, himage, hkey⟩ := hposition
      refine ⟨position, image, ?_, himage, hkey⟩
      rw [indexOf?_concat, ← indexOf?, h.unknown _ hlast, Option.none_or, if_pos rfl]
  unknown := by
    intro reference hmem
    rw [List.mem_append, List.mem_singleton, not_or] at hmem
    rw [indexOf?_concat, ← indexOf?, h.unknown _ hmem.1, Option.none_or, if_neg hmem.2]

/-- One more reference is listed. -/
theorem add (last : String) : Lists ascii base (references ++ [last]) (p.add ascii base last) := by
  rw [Plan.add]
  by_cases hknown : (p.indexOf? last).isSome = true
  · -- A spelling that was met before changes nothing.
    have hmem := h.mem_of_isSome hknown
    rw [if_pos hknown]
    refine ⟨?_, fun reference hr => ?_, fun reference hr => ?_⟩
    · rw [firsts_concat, if_pos ⟨last, hmem, rfl⟩]
      exact h.images
    · rcases List.mem_append.mp hr with hr | hr
      · exact h.indexed reference hr
      · rw [List.mem_singleton.mp hr]
        exact h.indexed last hmem
    · exact h.unknown reference fun hmem => hr (List.mem_append_left _ hmem)
  · have hlast : last ∉ references := fun hmem => hknown ((h.isSome_iff last).mpr hmem)
    rw [if_neg hknown]
    dsimp only
    split
    next position hposition =>
      -- The key was met under another spelling, whose image is shared.
      obtain ⟨hlt, hkey, -⟩ := List.findIdx?_eq_some_iff_getElem.mp hposition
      have hkey : p.images[position].source.key = keyOf ascii base last := beq_iff_eq.mp hkey
      obtain ⟨earlier, hearlier, himage⟩ : ∃ earlier ∈ references,
          p.images[position] = imageOf ascii base earlier :=
        exists_of_mem_firsts ascii base (by rw [← h.images]; exact List.getElem_mem hlt)
      have hmet : ∃ reference ∈ references, keyOf ascii base reference = keyOf ascii base last :=
        ⟨earlier, hearlier, by rw [← hkey, himage, keyOf]⟩
      refine h.concat hlast ?_ (fun _ _ hi => hi) ⟨_, List.getElem?_eq_getElem hlt, hkey⟩
      rw [firsts_concat, if_pos hmet, h.images]
    next hposition =>
      -- The key is new, and so is the image.
      have hnew :
          ¬∃ reference ∈ references, keyOf ascii base reference = keyOf ascii base last := by
        rintro ⟨reference, hmem, hkey⟩
        obtain ⟨i, image, -, himage, hsame⟩ := h.indexed reference hmem
        have hne := List.findIdx?_eq_none_iff.mp hposition image (List.mem_of_getElem? himage)
        simp only [beq_eq_false_iff_ne] at hne
        exact hne (hsame.trans hkey)
      refine h.concat hlast ?_ (fun i image hi => ?_) ⟨imageOf ascii base last, ?_, rfl⟩
      · rw [firsts_concat, if_neg hnew, h.images]
      · rw [List.getElem?_append_left (List.getElem?_eq_some_iff.mp hi).1, hi]
      · rw [List.getElem?_concat_length]

end Lists

/-- The plan of a list of references lists their images. -/
theorem lists_ofReferences (references : List String) :
    Lists ascii base references (ofReferences ascii base references) := by
  induction references using List.reverseRecOn with
  | nil => exact ⟨rfl, by simp, fun _ _ => rfl⟩
  | append_singleton references last ih =>
    rw [ofReferences, List.foldl_append, ← ofReferences]
    exact ih.add last

theorem lists_ofProgram (names : Call.FactoryNames) (ascii : Url.ToAscii) (base : Path)
    (program : Tree) :
    Lists ascii base (Call.allImageTexts names program) (ofProgram names ascii base program) :=
  lists_ofReferences _

end ImageImports.Plan
