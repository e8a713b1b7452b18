import ImageImports.Proofs.Plan.Distinct
import ImageImports.Proofs.Source

/-!
# Spellings of one path

A file can be referred to in many ways: with dots, with several slashes, by climbing out of the
directory of the document and coming back. Where the text alone tells that two references lead to
one place, they have one key, and a plan has one image for both. There is one exception. A `..`
that asks for the place above the root is kept, and the next such `..` takes it away again, so a
reference with an odd number of them and one with an even number have two keys for one place.

A key shows the path as a text. If the directory of the document is none, then two places may be
shown as one, and their references have one key.

## Main results

* `Source.key_eq_key_iff_text_eq`: the key of a path is the path with its dots resolved, as it is
  shown.
* `Source.local_references_share_image_iff`: the local references that a plan has one image for.
-/

namespace ImageImports.Source

variable {ascii : Url.ToAscii} {base : Path} {reference other : String}

/-- References that are no URLs have one key if and only if their paths, with the dots resolved, are
shown as one text. -/
theorem key_eq_key_iff_text_eq (h : Url.parse? ascii reference = none)
    (hother : Url.parse? ascii other = none) :
    (classify ascii reference base).key = (classify ascii other base).key ↔
      (base.join (.ofText reference)).normalize.text =
        (base.join (.ofText other)).normalize.text := by
  rw [classify_eq_local h, classify_eq_local hother, key, key]

/-- References to files have one key if and only if their paths, read from the directory of the
document, have locations that are shown as one, and climb above the root both an even or both an
odd number of times. These, and only these, have one image in every plan that lists both. If the
directory is a text, then no two locations are shown as one. -/
theorem local_references_share_image_iff (hbase : base.isAbsolute = true)
    (h : Url.parse? ascii reference = none) (hother : Url.parse? ascii other = none) :
    let path := base.join (.ofText reference)
    let path' := base.join (.ofText other)
    ((classify ascii reference base).key = (classify ascii other base).key ↔
      path.shownLocation = path'.shownLocation ∧ path.climbs % 2 = path'.climbs % 2) ∧
    (∀ references, reference ∈ references → other ∈ references →
      ∃ position position',
        (Plan.ofReferences ascii base references).indexOf? reference = some position ∧
        (Plan.ofReferences ascii base references).indexOf? other = some position' ∧
        (position = position' ↔
          path.shownLocation = path'.shownLocation ∧ path.climbs % 2 = path'.climbs % 2)) ∧
    (base.IsText →
      (path.shownLocation = path'.shownLocation ↔ path.location = path'.location)) := by
  have hkey : (classify ascii reference base).key = (classify ascii other base).key ↔
      (base.join (.ofText reference)).shownLocation = (base.join (.ofText other)).shownLocation ∧
        (base.join (.ofText reference)).climbs % 2 = (base.join (.ofText other)).climbs % 2 := by
    rw [key_eq_key_iff_text_eq h hother]
    exact Path.text_normalize_eq_iff (Path.isAbsolute_join hbase _) (Path.isAbsolute_join hbase _)
  refine ⟨hkey, fun references hmem hmem' => ?_, fun htext => ?_⟩
  · have hplan : (Plan.ofReferences ascii base references).Deduplicates ascii base references :=
      (Plan.lists_ofReferences references).deduplicates
    obtain ⟨position, -, hindex, -, -⟩ := hplan.indexed reference hmem
    obtain ⟨position', -, hindex', -, -⟩ := hplan.indexed other hmem'
    refine ⟨position, position', hindex, hindex', ?_⟩
    rw [← Option.some_inj, ← hindex, ← hindex', hplan.same reference hmem other hmem']
    exact hkey
  · exact (htext.join (Path.isText_ofText reference)).shownLocation_eq_iff
      (htext.join (Path.isText_ofText other))

/-- One `..` above the root more gives a file another key and another image, and two more give it
the first ones again. -/
theorem local_references_share_image_iff_above_root :
    ((Path.ofText "/p").join (.ofText "../logo.png")).shownLocation = ["logo.png"] ∧
    ((Path.ofText "/p").join (.ofText "../../logo.png")).shownLocation = ["logo.png"] ∧
    (classify .ofAscii "../logo.png" (.ofText "/p")).key ≠
      (classify .ofAscii "../../logo.png" (.ofText "/p")).key ∧
    (classify .ofAscii "../logo.png" (.ofText "/p")).key =
      (classify .ofAscii "../../../logo.png" (.ofText "/p")).key := by
  have hbase : (Path.ofText "/p").isAbsolute = true := by decide +kernel
  have hnone : Url.parse? .ofAscii "../logo.png" = none := by decide +kernel
  have hodd := (local_references_share_image_iff hbase hnone
    (show Url.parse? .ofAscii "../../logo.png" = none by decide +kernel)).1
  have heven := (local_references_share_image_iff hbase hnone
    (show Url.parse? .ofAscii "../../../logo.png" = none by decide +kernel)).1
  refine ⟨by decide +kernel, by decide +kernel, fun hkey => ?_, heven.mpr (by decide +kernel)⟩
  exact absurd (hodd.mp hkey).2 (by decide +kernel)

/-- In a directory that is no text, two files may have one key. -/
example : let base : Path := ⟨[0x2F, 0x70, 0xFF]⟩
    (base.join (.ofText "a.png")).location ≠ (base.join (.ofText "/p\uFFFD/a.png")).location ∧
      (classify .ofAscii "a.png" base).key = (classify .ofAscii "/p\uFFFD/a.png" base).key := by
  decide +kernel

end ImageImports.Source
