import ImageImports.Proofs.FileSystem.Location
import ImageImports.Proofs.Source
import ImageImports.Transform.Run

/-!
# The file that a reference names

The directory of a document is resolved once, from the working directory if it is relative, and
every reference of the document is resolved from there. It makes no difference to what is read that
dots are resolved twice, and none that they are resolved by the text of a path alone: without links
they lead nowhere else.

## Main results

* `Transform.placeOf_eq`: the directory that references are read from.
* `Transform.normal_path_means_same_file`: dots that are resolved change no file that is meant.
-/

namespace ImageImports

/-- A world whose working directory holds an image and a directory without anything in it. -/
def World.site : World where
  files := ⟨[(["site"].map Utf8.encode, .directory),
    (["site", "posts"].map Utf8.encode, .directory),
    (["site", "logo.png"].map Utf8.encode, .file ⟨#[1]⟩)]⟩
  workingDirectory := some (.ofText "/site")
  time := .zero
  asked := fun _ => 0

namespace Transform

/-- A document that has a path is read from its directory, which is found from the working directory
if it is relative. -/
theorem placeOf_eq {world : World} {document : Document} {path directory working : Path}
    (hpath : document.path = .ok path) (hdirectory : document.directory = .ok directory)
    (hworking : directory.isAbsolute = false → world.workingDirectory = some working) :
    placeOf world document = .ok (path, (working.join directory).normalize) := by
  have hanchor : directory.anchor world.workingDirectory =
      .ok (working.join directory).normalize := by
    unfold Path.anchor
    by_cases habsolute : directory.isAbsolute = true
    · rw [if_pos habsolute, Path.join, if_pos habsolute]
    · rw [if_neg habsolute, hworking (Bool.eq_false_iff.mpr habsolute)]
  rw [placeOf, hpath, hdirectory, Except.bind, Except.bind, hanchor]
  rfl

/-- What is read where a path leads is read where its normal path leads. -/
theorem read_normalize {files : FileSystem} {p : Path} (h : p.isAbsolute = true)
    {bytes : ByteArray} (hread : files.read p = .ok bytes) :
    files.read p.normalize = .ok bytes := by
  obtain ⟨place, hplace, hentry⟩ := FileSystem.read_eq_ok_iff.mp hread
  exact FileSystem.read_eq_ok_iff.mpr ⟨place, FileSystem.locate_normalize h hplace, hentry⟩

/-- The dots of a path may be resolved without changing the file that is meant. The normal path of
an absolute path is resolved and means the location of the path, which is where the path leads in a
file system if it leads anywhere. To resolve dots twice, or to resolve those of a directory first,
changes nothing. And so every reference of a document that is no URL is read where the working
directory, the directory of the document and the reference lead one after another. -/
theorem normal_path_means_same_file :
    (∀ p : Path, p.isAbsolute = true →
      p.normalize.Resolved ∧ p.normalize.location = p.location ∧
      ∀ (files : FileSystem) (place : Location), files.locate p = .ok place →
        place = p.location ∧ files.locate p.normalize = .ok place) ∧
    (∀ p : Path, p.normalize.normalize = p.normalize) ∧
    (∀ directory rest : Path, directory.isAbsolute = true → rest.isAbsolute = false →
      (directory.normalize.join rest).normalize = (directory.join rest).normalize) ∧
    ∀ (world : World) (document : Document) (path directory working : Path),
      document.path = .ok path → document.directory = .ok directory →
      (directory.isAbsolute = false → world.workingDirectory = some working) →
      ∃ base, placeOf world document = .ok (path, base) ∧
        ∀ (t : Transform) (reference : String), Url.parse? t.ascii reference = none →
          let whole := (working.join directory).join (.ofText reference)
          Source.classify t.ascii reference base = .local whole.normalize ∧
          (t.resolve world (Plan.imageOf t.ascii base reference)).result =
            some (readLocal world.files whole.normalize) ∧
          ∀ bytes, whole.isAbsolute = true → world.files.read whole = .ok bytes →
            (t.resolve world (Plan.imageOf t.ascii base reference)).result = some (.ok bytes) := by
  refine ⟨fun p h =>
    ⟨Path.resolved_normalize h, p.location_normalize, fun files place hplace => ?_⟩,
    Path.normalize_normalize, fun directory rest _ _ => directory.normalize_join_normalize rest, ?_⟩
  · exact ⟨(FileSystem.eq_location_of_locate hplace).1, FileSystem.locate_normalize h hplace⟩
  · intro world document path directory working hpath hdirectory hworking
    refine ⟨_, placeOf_eq hpath hdirectory hworking, fun t reference hreference => ?_⟩
    intro whole
    have hclassify : Source.classify t.ascii reference (working.join directory).normalize =
        .local whole.normalize := by
      rw [Source.classify_eq_local hreference]
      exact congrArg Source.local
        ((working.join directory).normalize_join_normalize (.ofText reference))
    have hresult : (t.resolve world
        (Plan.imageOf t.ascii (working.join directory).normalize reference)).result =
          some (readLocal world.files whole.normalize) := by
      rw [Plan.imageOf, hclassify]
      rfl
    refine ⟨hclassify, hresult, fun bytes habsolute hread => ?_⟩
    rw [hresult, readLocal, read_normalize habsolute hread]
    rfl

/-- A reference that climbs out of the directory of its document, where that is relative and the
reference climbs to the place above the root on its way. -/
theorem normal_path_means_same_file_above_root :
    (Path.ofText "/../site/./posts//../logo.png").normalize.Resolved ∧
    World.site.files.locate (Path.ofText "/../site/./posts//../logo.png").normalize =
      .ok (["site", "logo.png"].map Utf8.encode) ∧
    ∃ base, placeOf .site (.ofPath (.ofText "posts/first.md")) =
        .ok (.ofText "posts/first.md", base) ∧
      ∀ t : Transform,
        (t.resolve .site (Plan.imageOf t.ascii base "../../../site/logo.png")).result =
          some (.ok ⟨#[1]⟩) := by
  obtain ⟨hnormal, -, -, hplace⟩ := normal_path_means_same_file
  have habsolute : (Path.ofText "/../site/./posts//../logo.png").isAbsolute = true := by
    decide +kernel
  obtain ⟨hresolved, -, hlocate⟩ := hnormal _ habsolute
  obtain ⟨base, hbase, hread⟩ := hplace .site (.ofPath (.ofText "posts/first.md"))
    (.ofText "posts/first.md") (.ofText "posts") (.ofText "/site") rfl (by decide +kernel)
    fun _ => rfl
  refine ⟨hresolved, (hlocate World.site.files (["site", "logo.png"].map Utf8.encode) rfl).2, base,
    hbase, fun t => ?_⟩
  have hnone : Url.parse? t.ascii "../../../site/logo.png" = none :=
    Url.parse?_eq_none_of_notMem (by decide +kernel)
  exact (hread t _ hnone).2.2 _ (by decide +kernel) rfl

end Transform

end ImageImports
