import ImageImports.Cache.Basic
import ImageImports.Proofs.Path.Way

/-!
# Caches that a host serves

A host serves what lies in the directory `public` of its working directory. The warning looks at the
first name of a relative cache directory and at nothing after it, but the cache is opened where the
whole path leads. So a directory without a warning can lead out of `public` again by its dots. It is
served just if its way comes back into `public`.

## Main results

* `Cache.outsidePublic_notMem_warnings_iff`: which directories the host is not warned of.
* `Cache.directory_of_openAt`: where a cache is opened.
* `Cache.unwarned_directory_is_served_iff`: which of these directories are served.
* `Cache.unwarned_directory_is_not_served`: one that is not.
-/

namespace ImageImports.Cache

variable {workingDirectory directory : Path} {encoding : HashEncoding} {skipExisting : Bool}
  {files : FileSystem}

/-- The host is not warned of a relative directory if its first name is `public`. -/
theorem isOutsidePublic_eq_false_iff (h : directory.isAbsolute = false) :
    isOutsidePublic directory = false ↔
      directory.components.find? (· != .current) = some (.named (Utf8.encode "public")) := by
  rw [isOutsidePublic, h, Bool.not_false, Bool.true_and, bne_eq_false_iff_eq]

theorem outsidePublic_notMem_warnings_iff (anchor : Option Path) :
    .outsidePublic ∉ (openAt anchor directory encoding skipExisting files).warnings ↔
      isOutsidePublic directory = false := by
  have hwarnings : (openAt anchor directory encoding skipExisting files).warnings =
      if isOutsidePublic directory then [.outsidePublic] else [] := by
    unfold openAt
    dsimp only
    split
    · rfl
    · split <;> rfl
  rw [hwarnings]
  split
  next hwarned => simp [hwarned]
  next hquiet => simp [Bool.eq_false_iff.mpr hquiet]

/-- A cache is opened at the end of the way from the working directory. -/
theorem directory_of_openAt (h : directory.isAbsolute = false) {cache : Cache}
    (hcache : (openAt (some workingDirectory) directory encoding skipExisting files).result =
      .ok cache) : cache.directory = (workingDirectory.join directory).normalize := by
  have hanchor : directory.anchor (some workingDirectory) =
      .ok (workingDirectory.join directory).normalize := by
    rw [Path.anchor, h]
    rfl
  rw [openAt, hanchor] at hcache
  dsimp only at hcache
  split at hcache
  · cases hcache
  · obtain rfl := Except.ok.inj hcache
    rfl

theorem isFileName_public : Path.IsFileName (Utf8.encode "public") where
  noSlash := by decide
  named := by decide

/-- A relative directory that the host is not warned of has `public` as its first name. Its cache
is opened at the end of its way from the working directory, and that is `public` or lies below it
just if the way names again the places that it goes up from, and then `public`. Beyond the root it
has to go up an even number of times. -/
theorem unwarned_directory_is_served_iff (hworking : workingDirectory.isAbsolute = true)
    (hdirectory : directory.isAbsolute = false)
    (hquiet : .outsidePublic ∉
      (openAt (some workingDirectory) directory encoding skipExisting files).warnings) :
    directory.components.find? (· != .current) = some (.named (Utf8.encode "public")) ∧
    (∀ cache, (openAt (some workingDirectory) directory encoding skipExisting files).result =
      .ok cache → cache.directory = (workingDirectory.join directory).normalize) ∧
    ((workingDirectory.join directory).normalize.IsWithin
        (workingDirectory.normalize.join (.ofText "public")) ↔
      workingDirectory.location.drop (workingDirectory.location.length - directory.way.up) ++
          [Utf8.encode "public"] <+: directory.way.names ∧
        (directory.way.up - workingDirectory.location.length) % 2 = 0) := by
  have hfirst := (outsidePublic_notMem_warnings_iff _).mp hquiet
  exact ⟨(isOutsidePublic_eq_false_iff hdirectory).mp hfirst,
    fun cache hcache => directory_of_openAt hdirectory hcache,
    Path.isWithin_normalize_join_iff hworking hdirectory isFileName_public⟩

/-- The way leads out of the working directory, and by its name into `public` again. -/
theorem unwarned_directory_is_served_iff_returning :
    let workingDirectory : Path := .ofText "/srv/site"
    let directory : Path := .ofText "./public/../../site/public/img"
    let opening := openAt (some workingDirectory) directory .hex true .empty
    workingDirectory.isAbsolute = true ∧ directory.isAbsolute = false ∧
      .outsidePublic ∉ opening.warnings ∧
      directory.way = ⟨1, ["site", "public", "img"].map Utf8.encode⟩ ∧
      (workingDirectory.join directory).normalize.IsWithin
        (workingDirectory.normalize.join (.ofText "public")) := by
  intro workingDirectory directory opening
  have hworking : workingDirectory.isAbsolute = true := by decide
  have hdirectory : directory.isAbsolute = false := by decide
  have hquiet : .outsidePublic ∉ opening.warnings := by
    rw [outsidePublic_notMem_warnings_iff]
    decide
  have hway : directory.way = ⟨1, ["site", "public", "img"].map Utf8.encode⟩ := by decide
  have hlocation : workingDirectory.location = ["srv", "site"].map Utf8.encode := by decide
  refine ⟨hworking, hdirectory, hquiet, hway, ?_⟩
  rw [(unwarned_directory_is_served_iff hworking hdirectory hquiet).2.2, hway, hlocation]
  decide

/-- The host is not warned of a directory that starts in `public` and leaves it at once. -/
theorem unwarned_directory_is_not_served :
    let workingDirectory : Path := .ofText "/site"
    let directory : Path := .ofText "public/../images"
    let opening := openAt (some workingDirectory) directory .hex true .empty
    workingDirectory.isAbsolute = true ∧ directory.isAbsolute = false ∧
      opening.warnings = [] ∧
      opening.result.toOption.map Cache.directory = some (.ofText "/site/images") ∧
      (workingDirectory.join directory).normalize = .ofText "/site/images" ∧
      workingDirectory.normalize.join (.ofText "public") = .ofText "/site/public" ∧
      ¬ Path.IsWithin (.ofText "/site/images") (.ofText "/site/public") := by
  intro workingDirectory directory opening
  have hopened : opening.result.toOption.map Cache.directory = some (.ofText "/site/images") := by
    decide +kernel
  exact ⟨by decide, by decide, by decide, hopened, by decide, by decide, by decide⟩

end ImageImports.Cache
