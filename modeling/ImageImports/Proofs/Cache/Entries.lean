import ImageImports.Proofs.Cache.Concurrent
import Mathlib.Data.Set.Function

/-!
# Entries of a cache directory

The name of a cached file tells how it is spelled, the digest of its bytes and its ending: up to the
first dot it is a spelled digest, and an ending starts with a dot if it is not empty. So two files
of a cache directory have one name only if all three are the same, even if one directory is used
with both spellings.

A directory is sound about some byte strings if whatever is at the path of one of them is a file
that holds it. Stores keep that, in whatever turns they take their steps and whichever of these
fail. When all of them have succeeded the directory holds what it held and the stored bytes, and
nothing else.

## Main definitions

* `Cache.IsSound`: a directory is sound about some byte strings.
* `Cache.Settled`: stores that have all succeeded, and have left nothing where they wrote first.

## Main results

* `Cache.eq_of_fileName_eq`: what a name tells.
* `Cache.IsSound.of_turns`: stores keep a directory sound.
* `Cache.Settled.entry_eq_ok_iff`: the entries of a directory after stores that succeed.
-/

namespace ImageImports

/-! ### What a name tells -/

theorem Path.eq_of_join_eq {base : Path} {name other : List UInt8} (hname : Path.IsFileName name)
    (hother : Path.IsFileName other) (h : base.join ⟨name⟩ = base.join ⟨other⟩) : name = other := by
  obtain ⟨segments, hsegments, -⟩ := base.exists_segments
  have hsplit := hsegments name hname.noSlash
  rw [h, hsegments other hother.noSlash] at hsplit
  exact (List.cons.inj (List.append_cancel_left hsplit)).1.symm

namespace FileSystem

theorem entry_eq_ok_iff {files : FileSystem} {p : Path} {found : Entry} :
    files.entry p = .ok found ↔
      ∃ place, files.locate p = .ok place ∧ files.entryAt? place = some found := by
  rw [entry]
  cases files.locate p with
  | error cause => simp
  | ok place => cases hentry : files.entryAt? place <;> simp [hentry]

theorem entry_of_read {files : FileSystem} {p : Path} {bytes : ByteArray}
    (h : files.read p = .ok bytes) : files.entry p = .ok (.file bytes) :=
  entry_eq_ok_iff.mpr (read_eq_ok_iff.mp h)

end FileSystem

namespace Cache

variable {c c' : Cache} {bytes other : ByteArray} {reference last : String}

theorem takeWhile_fileName (c : Cache) (bytes : ByteArray) (reference : String) :
    (c.fileName bytes (extension reference)).toList.takeWhile (· ≠ '.') =
      (contentHash bytes c.encoding).toList := by
  have hspelled : ∀ char ∈ (contentHash bytes c.encoding).toList,
      decide (char ≠ '.') = true := by
    intro char hmem
    exact decide_eq_true (HashEncoding.isNameChar_spell _ _ char hmem).1
  rw [fileName, String.toList_append, List.takeWhile_append_of_pos hspelled]
  have hending : (extension reference).toList.takeWhile (· ≠ '.') = [] := by
    rcases extension_cases reference with hnil | ⟨letters, hletters, -⟩
    · rw [hnil]
      rfl
    · rw [hletters, List.takeWhile_cons_of_neg (by simp)]
  rw [hending, List.append_nil]

/-- Files with one name have one spelling, the digest of one content and one ending. -/
theorem eq_of_fileName_eq
    (h : c.fileName bytes (extension reference) = c'.fileName other (extension last)) :
    c.encoding = c'.encoding ∧ Sha256.digest bytes = Sha256.digest other ∧
      extension reference = extension last := by
  have hhash : contentHash bytes c.encoding = contentHash other c'.encoding := by
    rw [← String.toList_inj, ← takeWhile_fileName c bytes reference,
      ← takeWhile_fileName c' other last, h]
  have hencoding : c.encoding = c'.encoding := by
    have hlength := congrArg (fun hash => hash.toList.length) hhash
    simp only [contentHash, HashEncoding.length_spell] at hlength
    cases hc : c.encoding <;> cases hc' : c'.encoding <;>
      simp [hc, hc', HashEncoding.length] at hlength ⊢
  refine ⟨hencoding, ?_, ?_⟩
  · rw [contentHash, contentHash, hencoding] at hhash
    exact HashEncoding.spell_injective hhash
  · rw [fileName, fileName, hhash] at h
    have hchars := congrArg String.toList h
    rw [String.toList_append, String.toList_append] at hchars
    exact String.toList_inj.mp (List.append_cancel_left hchars)

theorem isFileName_fileName_extension (c : Cache) (bytes : ByteArray) (reference : String) :
    Path.IsFileName (Utf8.encode (c.fileName bytes (extension reference))) :=
  c.isFileName_fileName bytes (slash_notMem_extension reference)

/-! ### Sound directories -/

open FileSystem

/-- A cache directory is sound about some byte strings: what is at the path of one of them, in
either spelling and with whatever ending a reference may have, is a file that holds it. -/
def IsSound (directory : Path) (known : Set ByteArray) (files : FileSystem) : Prop :=
  ∀ c : Cache, c.directory = directory → ∀ bytes ∈ known, ∀ reference found,
    files.entry (c.pathFor bytes (extension reference)) = .ok found → found = .file bytes

/-- Stores of known byte strings in a cache: each has its bytes at their path, and first at a path
of its own. -/
structure Keeps (c : Cache) (known : Set ByteArray) (calls : List Storing) : Prop where
  target : ∀ call ∈ calls, call.bytes ∈ known ∧
    ∃ reference, call.target = c.pathFor call.bytes (extension reference)
  temp : ∀ call ∈ calls, ∃ draw, call.temp = c.tempPath draw

variable {known : Set ByteArray} {calls : List Storing} {before : FileSystem} {p : Progress}

/-- A sound directory is right about all known byte strings. -/
theorem IsSound.isRightAbout (h : IsSound c.directory known before) (hbytes : bytes ∈ known)
    (reference : String) :
    c.IsRightAbout before (c.pathFor bytes (extension reference)) bytes := by
  intro _ hfile
  obtain ⟨place, found, hplace, hentry, -⟩ := hasFile_iff.mp hfile
  have hfound := h c rfl bytes hbytes reference _
    (entry_eq_ok_iff.mpr ⟨place, hplace, hentry⟩)
  exact read_eq_ok_iff.mpr ⟨place, hplace, hfound ▸ hentry⟩

/-- A file where a store writes first has no name of a cached file. -/
theorem Keeps.temp_ne (h : Keeps c known calls) {call : Storing} (hmem : call ∈ calls)
    {place : Location}
    (hplace : before.locate (c'.pathFor bytes (extension reference)) = .ok place) :
    before.locate call.temp ≠ .ok place := by
  intro htemp
  obtain ⟨draw, hdraw⟩ := h.temp call hmem
  rw [hdraw] at htemp
  have hname := getLast?_of_locate_join (isFileName_fileName_extension c' bytes reference) hplace
  have hlast := getLast?_of_locate_join (isFileName_tempName draw) htemp
  exact c'.fileName_ne_tempName bytes (extension reference) draw
    (Utf8.encode_injective (Option.some.inj (hname.symm.trans hlast)))

/-- Stores whose bytes are known keep a directory sound, in whatever turns they take their steps. -/
theorem IsSound.of_turns (hdigest : known.InjOn Sha256.digest) (hcalls : Keeps c known calls)
    (hturns : Sound c.skipExisting calls before p) (h : IsSound c.directory known before) :
    IsSound c.directory known p.files := by
  intro c' hdirectory bytes hbytes reference found hentry
  obtain ⟨place, hplace, hfound⟩ := entry_eq_ok_iff.mp hentry
  have hplace := (locate_eq_ok_iff hturns.directories).mpr hplace
  cases hturns.entry place fun call hmem => hcalls.temp_ne hmem hplace with
  | same hsame =>
    exact h c' hdirectory bytes hbytes reference found
      (entry_eq_ok_iff.mpr ⟨place, hplace, hsame ▸ hfound⟩)
  | stored call hmem htarget hstored =>
    obtain ⟨hknown, ending, hpath⟩ := hcalls.target call hmem
    rw [hpath] at htarget
    have hname := getLast?_of_locate_join (isFileName_fileName_extension c' bytes reference) hplace
    have hlast :=
      getLast?_of_locate_join (isFileName_fileName_extension c call.bytes ending) htarget
    obtain ⟨-, hsame, -⟩ :=
      eq_of_fileName_eq (Utf8.encode_injective (Option.some.inj (hname.symm.trans hlast)))
    obtain rfl := hdigest hbytes hknown hsame
    exact Option.some.inj (hfound.symm.trans hstored)

/-! ### Stores that have all succeeded -/

/-- Stores that have all succeeded: each has its bytes at their path, and nothing is left where it
wrote first, nor was there anything before. -/
structure Settled (calls : List Storing) (before after : FileSystem) : Prop where
  read : ∀ call ∈ calls, after.read call.target = .ok call.bytes
  temp : ∀ call ∈ calls, ∀ place, before.locate call.temp = .ok place →
    before.entryAt? place = none ∧ after.entryAt? place = none

/-- After stores that have all succeeded a directory holds their bytes, and what it held under every
other name. -/
theorem Settled.entry_eq_ok_iff (h : Settled calls before p.files) (hcalls : Keeps c known calls)
    (hturns : Sound c.skipExisting calls before p) {name : List UInt8}
    (hname : Path.IsFileName name) {found : Entry} :
    p.files.entry (c.directory.join ⟨name⟩) = .ok found ↔
      (∃ call ∈ calls, call.target = c.directory.join ⟨name⟩ ∧ found = .file call.bytes) ∨
      (∀ call ∈ calls, call.target ≠ c.directory.join ⟨name⟩) ∧
        before.entry (c.directory.join ⟨name⟩) = .ok found := by
  -- Bytes that belong at the place of a file are those of a store for its path.
  have htarget {call : Storing} (hmem : call ∈ calls) {place : Location}
      (hcall : before.locate call.target = .ok place)
      (hplace : before.locate (c.directory.join ⟨name⟩) = .ok place) :
      call.target = c.directory.join ⟨name⟩ := by
    obtain ⟨-, ending, hpath⟩ := hcalls.target call hmem
    rw [hpath] at hcall
    have hlast := getLast?_of_locate_join (isFileName_fileName_extension c call.bytes ending) hcall
    have hnameLast := getLast?_of_locate_join hname hplace
    rw [hpath, ← Option.some.inj (hlast.symm.trans hnameLast)]
    rfl
  constructor
  · intro hentry
    obtain ⟨place, hplace, hfound⟩ := FileSystem.entry_eq_ok_iff.mp hentry
    have hplace := (locate_eq_ok_iff hturns.directories).mpr hplace
    by_cases hstored : ∃ call ∈ calls, call.target = c.directory.join ⟨name⟩
    · obtain ⟨call, hmem, hpath⟩ := hstored
      have hbytes := entry_of_read (h.read call hmem)
      rw [hpath] at hbytes
      exact .inl ⟨call, hmem, hpath, Except.ok.inj (hentry.symm.trans hbytes)⟩
    · have hfree : ∀ call ∈ calls, before.locate call.temp ≠ .ok place := by
        intro call hmem htemp
        rw [(h.temp call hmem place htemp).2] at hfound
        cases hfound
      cases hturns.entry place hfree with
      | same hsame =>
        exact .inr ⟨fun call hmem hpath => hstored ⟨call, hmem, hpath⟩,
          FileSystem.entry_eq_ok_iff.mpr ⟨place, hplace, hsame ▸ hfound⟩⟩
      | stored call hmem hcall _ => exact absurd ⟨call, hmem, htarget hmem hcall hplace⟩ hstored
  · rintro (⟨call, hmem, hpath, rfl⟩ | ⟨hnone, hentry⟩)
    · rw [← hpath]
      exact entry_of_read (h.read call hmem)
    · obtain ⟨place, hplace, hfound⟩ := FileSystem.entry_eq_ok_iff.mp hentry
      have hfree : ∀ call ∈ calls, before.locate call.temp ≠ .ok place := by
        intro call hmem htemp
        rw [(h.temp call hmem place htemp).1] at hfound
        cases hfound
      cases hturns.entry place hfree with
      | same hsame =>
        exact FileSystem.entry_eq_ok_iff.mpr
          ⟨place, (locate_eq_ok_iff hturns.directories).mp hplace, hsame.trans hfound⟩
      | stored call hmem hcall _ => exact absurd (htarget hmem hcall hplace) (hnone call hmem)

end Cache

end ImageImports
