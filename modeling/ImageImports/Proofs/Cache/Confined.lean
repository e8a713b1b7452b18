import ImageImports.Proofs.Cache.Entries
import ImageImports.Proofs.Path.Location

/-!
# Names in a cache directory

Whatever a reference says, the file that a cached copy gets is right below the cache directory: its
name is a content address and an ending that leads nowhere else. Such a name is never that of a file
that is still being written. It says no more and no less than the digest of the bytes and the
ending, so two copies have one path only if both are the same.

## Main results

* `Cache.pathFor_eq_iff`, `Cache.components_pathFor_eq_iff`: what the path of a cached file tells.
* `Cache.cached_names_are_confined_and_unambiguous`: where cached files are, what their names are
  made of, and which of them have one name.
-/

namespace ImageImports.Cache

variable (c : Cache) (bytes other : ByteArray) (source last : Source) (reference text : String)

theorem head?_fileName_ne_dot (extension : String) :
    (c.fileName bytes extension).toList.head? ≠ some '.' := by
  obtain ⟨first, rest, hname, hfirst⟩ := c.exists_toList_fileName bytes extension
  rw [hname, List.head?_cons]
  exact fun hdot => hfirst.1 (Option.some.inj hdot)

/-- No cached file is where a file is still being written. -/
theorem pathFor_ne_tempPath {extension : String} (h : '/' ∉ extension.toList) (draw : Uuid) :
    c.pathFor bytes extension ≠ c.tempPath draw := by
  intro heq
  exact c.fileName_ne_tempName bytes extension draw
    (Utf8.encode_injective
      (Path.eq_of_join_eq (c.isFileName_fileName bytes h) (isFileName_tempName draw) heq))

theorem components_pathFor {extension : String} (h : '/' ∉ extension.toList) :
    (c.pathFor bytes extension).components =
      c.directory.components ++ [.named (Utf8.encode (c.fileName bytes extension))] :=
  Path.components_join_of_isFileName c.directory (c.isFileName_fileName bytes h)

theorem location_pathFor {extension : String} (h : '/' ∉ extension.toList) :
    (c.pathFor bytes extension).location =
      c.directory.location ++ [Utf8.encode (c.fileName bytes extension)] :=
  Path.location_join_of_isFileName c.directory (c.isFileName_fileName bytes h)

/-- The name of a cached file tells the digest of its bytes and its ending, and is told by them. -/
theorem fileName_eq_iff :
    c.fileName bytes (source.extension reference) = c.fileName other (last.extension text) ↔
      Sha256.digest bytes = Sha256.digest other ∧
        source.extension reference = last.extension text := by
  constructor
  · intro h
    obtain ⟨first, hfirst⟩ := source.exists_extension_eq reference
    obtain ⟨second, hsecond⟩ := last.exists_extension_eq text
    rw [hfirst, hsecond] at h ⊢
    exact (eq_of_fileName_eq h).2
  · rintro ⟨hdigest, hextension⟩
    rw [fileName, fileName, contentHash, contentHash, hdigest, hextension]

/-- Cached files have one path just if they have one digest and one ending. -/
theorem pathFor_eq_iff :
    c.pathFor bytes (source.extension reference) = c.pathFor other (last.extension text) ↔
      Sha256.digest bytes = Sha256.digest other ∧
        source.extension reference = last.extension text := by
  rw [← fileName_eq_iff]
  constructor
  · exact fun h => Utf8.encode_injective (Path.eq_of_join_eq
      (c.isFileName_fileName bytes (source.slash_notMem_extension reference))
      (c.isFileName_fileName other (last.slash_notMem_extension text)) h)
  · exact congrArg fun name => c.directory.join (.ofText name)

/-- Paths that are compared by their components are told apart just as well. -/
theorem components_pathFor_eq_iff :
    (c.pathFor bytes (source.extension reference)).components =
        (c.pathFor other (last.extension text)).components ↔
      Sha256.digest bytes = Sha256.digest other ∧
        source.extension reference = last.extension text := by
  rw [← fileName_eq_iff, components_pathFor c bytes (source.slash_notMem_extension reference),
    components_pathFor c other (last.slash_notMem_extension text), List.append_cancel_left_eq,
    List.singleton_inj, Path.Component.named.injEq, Utf8.encode_injective.eq_iff]

/-- Whatever a reference says and however digests are spelled, a cached file is right below the
cache directory, and its name is a content address followed by an ending. The ending is empty, or a
dot and letters without another dot, and has no `/`, `?` or `#`. The name starts with no dot and is
that of no file that is still being written. Cached files have one path just if they have one digest
and one ending, also if paths are compared by their components. A content address has 64 characters
or 43, all of its alphabet, and the digest is read from it. -/
theorem cached_names_are_confined_and_unambiguous :
    (∀ (source : Source) (reference : String) (bytes : ByteArray),
      let extension := source.extension reference
      let name := contentHash bytes c.encoding ++ extension
      (c.pathFor bytes extension).components =
        c.directory.components ++ [.named (Utf8.encode name)] ∧
      (c.pathFor bytes extension).location = c.directory.location ++ [Utf8.encode name] ∧
      (extension = "" ∨ ∃ letters, extension.toList = '.' :: letters ∧ '.' ∉ letters) ∧
      (∀ char ∈ extension.toList, char ≠ '/' ∧ char ≠ '?' ∧ char ≠ '#') ∧
      name.toList.head? ≠ some '.' ∧
      ∀ draw, name ≠ tempName draw ∧ c.pathFor bytes extension ≠ c.tempPath draw) ∧
    (∀ (source last : Source) (reference text : String) (bytes other : ByteArray),
      (c.pathFor bytes (source.extension reference) = c.pathFor other (last.extension text) ↔
        Sha256.digest bytes = Sha256.digest other ∧
          source.extension reference = last.extension text) ∧
      ((c.pathFor bytes (source.extension reference)).components =
          (c.pathFor other (last.extension text)).components ↔
        Sha256.digest bytes = Sha256.digest other ∧
          source.extension reference = last.extension text)) ∧
    ∀ bytes : ByteArray,
      (contentHash bytes .hex).toList.length = 64 ∧
      (contentHash bytes .base64url).toList.length = 43 ∧
      ∀ encoding : HashEncoding,
        (∀ char ∈ (contentHash bytes encoding).toList, encoding.IsDigit char) ∧
        encoding.read? (contentHash bytes encoding) = some (Sha256.digest bytes).toList := by
  refine ⟨fun source reference bytes => ?_, fun source last reference text bytes other =>
    ⟨c.pathFor_eq_iff bytes other source last reference text,
      c.components_pathFor_eq_iff bytes other source last reference text⟩, fun bytes => ?_⟩
  · have hslash := source.slash_notMem_extension reference
    refine ⟨c.components_pathFor bytes hslash, c.location_pathFor bytes hslash, ?_, ?_,
      c.head?_fileName_ne_dot bytes _, fun draw =>
        ⟨c.fileName_ne_tempName bytes _ draw, c.pathFor_ne_tempPath bytes hslash draw⟩⟩
    all_goals obtain ⟨text, htext⟩ := source.exists_extension_eq reference
    all_goals rw [htext]
    · exact extension_cases text
    · exact fun char hmem => plain_of_mem_extension hmem
  · exact ⟨HashEncoding.length_spell .hex _, HashEncoding.length_spell .base64url _,
      fun encoding => ⟨encoding.isDigit_spell _, encoding.read?_spell _⟩⟩

end ImageImports.Cache
