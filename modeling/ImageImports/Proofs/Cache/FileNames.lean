import ImageImports.Cache.Basic
import ImageImports.Proofs.Bytes.Utf8
import ImageImports.Proofs.ContentHash
import ImageImports.Proofs.FileSystem.Walk
import ImageImports.Source
import Mathlib.Data.List.TakeDrop
import Mathlib.Data.List.TakeWhile

/-!
# File names in a cache

The file of a byte string is named by its content address and an ending. An ending has no slash, and
a dot only where it starts. So such a name starts with no dot, and it is never the name of a file
that is still being written. Two names are the same only if the addresses are.

## Main definitions

* `Cache.fileName`, `Cache.tempName`: the names of files in a cache.

## Main results

* `ending_cases`, `ending_append`, `extension_cases`, `plain_of_mem_extension`: what an ending is.
* `Cache.isFileName_fileName`, `Cache.isFileName_tempName`: both are names as they stand.
* `Cache.fileName_ne_tempName`, `Cache.digest_eq_of_fileName_eq`: names are told apart.
-/

namespace ImageImports

/-! ### Endings -/

theorem slash_notMem_lastSegment (chars : List Char) : '/' ∉ lastSegment chars := by
  intro hmem
  rw [lastSegment, List.mem_reverse] at hmem
  have hall := List.mem_takeWhile_imp hmem
  simp at hall

theorem lastSegment_subset (chars : List Char) : lastSegment chars ⊆ chars := by
  intro c hc
  rw [lastSegment, List.mem_reverse] at hc
  exact List.mem_reverse.mp (List.takeWhile_subset _ hc)

/-- A name has no ending, or it is something before its ending, which starts at the last dot. -/
theorem ending_cases (name : List Char) : ending name = [] ∨ ∃ first letters,
    name = first ++ '.' :: letters ∧ first ≠ [] ∧ '.' ∉ letters ∧
      ending name = '.' :: letters := by
  have hsplit : name.reverse.takeWhile (· ≠ '.') ++ name.reverse.dropWhile (· ≠ '.') =
      name.reverse := List.takeWhile_append_dropWhile
  rw [ending, List.span_eq_takeWhile_dropWhile]
  split
  next letters last before heq =>
    obtain ⟨rfl, hrest⟩ := Prod.mk.inj heq
    refine .inr ⟨(last :: before).reverse, (name.reverse.takeWhile (· ≠ '.')).reverse, ?_, by simp,
      ?_, rfl⟩
    · have hname := congrArg List.reverse hsplit
      rw [hrest, List.reverse_append, List.reverse_reverse] at hname
      refine hname.symm.trans ?_
      rw [List.reverse_cons, List.append_assoc]
      rfl
    · intro hmem
      have hall := List.mem_takeWhile_imp (List.mem_reverse.mp hmem)
      simp at hall
  next => exact .inl rfl

/-- The ending of a name starts at its last dot, unless that comes first. -/
theorem ending_append {first letters : List Char} (hfirst : first ≠ []) (hdot : '.' ∉ letters) :
    ending (first ++ '.' :: letters) = '.' :: letters := by
  have hletters : ∀ c ∈ letters.reverse, decide (c ≠ '.') = true := fun c hc =>
    decide_eq_true fun heq => hdot (heq ▸ List.mem_reverse.mp hc)
  obtain ⟨last, before, hlast⟩ : ∃ last before, first.reverse = last :: before :=
    List.exists_cons_of_ne_nil (mt List.reverse_eq_nil_iff.mp hfirst)
  rw [ending, List.span_eq_takeWhile_dropWhile, List.reverse_append, List.reverse_cons,
    List.append_assoc, List.takeWhile_append_of_pos hletters,
    List.dropWhile_append_of_pos hletters, hlast]
  simp

theorem ending_subset (name : List Char) : ending name ⊆ name := by
  rcases ending_cases name with hnil | ⟨first, letters, hname, -, -, hending⟩
  · rw [hnil]
    exact List.nil_subset _
  · rw [hending]
    conv => rhs; rw [hname]
    exact List.subset_append_right _ _

theorem extension_of_name {reference : String}
    (h : ∀ c ∈ reference.toList, c ≠ '/' ∧ c ≠ '?' ∧ c ≠ '#') :
    extension reference = String.ofList (ending reference.toList) := by
  have hbefore : beforeQuery reference.toList = reference.toList :=
    List.takeWhile_eq_self_iff.mpr fun c hc => by simp [(h c hc).2]
  have hlast : reference.toList.reverse.takeWhile (· ≠ '/') = reference.toList.reverse :=
    List.takeWhile_eq_self_iff.mpr fun c hc => by simp [(h c (List.mem_reverse.mp hc)).1]
  rw [extension, hbefore, lastSegment, hlast, List.reverse_reverse]

/-- The ending of a reference is empty, or a dot and letters without another one. -/
theorem extension_cases (reference : String) : extension reference = "" ∨
    ∃ letters, (extension reference).toList = '.' :: letters ∧ '.' ∉ letters := by
  rcases ending_cases (lastSegment (beforeQuery reference.toList)) with
    hnil | ⟨_, letters, -, -, hdot, h⟩
  · exact .inl (by rw [extension, hnil])
  · exact .inr ⟨letters, by rw [extension, String.toList_ofList, h], hdot⟩

/-- The ending of a reference has no character that ends a name, a path or a query. -/
theorem plain_of_mem_extension {reference : String} {c : Char}
    (h : c ∈ (extension reference).toList) : c ≠ '/' ∧ c ≠ '?' ∧ c ≠ '#' := by
  rw [extension, String.toList_ofList] at h
  have hlast := ending_subset _ h
  have hbefore := List.mem_takeWhile_imp (lastSegment_subset _ hlast)
  refine ⟨?_, ?_, ?_⟩
  · rintro rfl
    exact slash_notMem_lastSegment _ hlast
  · rintro rfl
    cases hbefore
  · rintro rfl
    cases hbefore

theorem slash_notMem_extension (reference : String) : '/' ∉ (extension reference).toList :=
  fun h => (plain_of_mem_extension h).1 rfl

theorem Source.exists_extension_eq (source : Source) (reference : String) :
    ∃ text, source.extension reference = ImageImports.extension text := by
  cases source with
  | remote url => exact ⟨url.path, rfl⟩
  | «local» path => exact ⟨reference, rfl⟩

theorem Source.slash_notMem_extension (source : Source) (reference : String) :
    '/' ∉ (source.extension reference).toList := by
  obtain ⟨text, htext⟩ := source.exists_extension_eq reference
  rw [htext]
  exact ImageImports.slash_notMem_extension text

/-! ### Names of files -/

theorem Path.isFileName_encode {name : String} (hslash : '/' ∉ name.toList)
    (hne : name ≠ "" ∧ name ≠ "." ∧ name ≠ "..") : Path.IsFileName (Utf8.encode name) := by
  refine ⟨Utf8.slash_notMem_encodeChars hslash, ?_⟩
  have hother {other : String} (h : name ≠ other) :
      (Utf8.encode name == Utf8.encode other) = false :=
    beq_eq_false_iff_ne.mpr (Utf8.encode_injective.ne h)
  have hidle : isIdle (Utf8.encode name) = false :=
    Bool.or_eq_false_iff.mpr ⟨hother hne.1, hother hne.2.1⟩
  have hparent : (Utf8.encode name == [dot, dot]) = false := hother hne.2.2
  rw [componentOf?, hidle, hparent]
  rfl

namespace Cache

/-- The name of the file of a byte string. -/
def fileName (c : Cache) (bytes : ByteArray) (extension : String) : String :=
  contentHash bytes c.encoding ++ extension

/-- The name of a file that is still being written. -/
def tempName (draw : Uuid) : String := s!".{draw.digits}.tmp"

variable (c : Cache)

theorem exists_toList_fileName (bytes : ByteArray) (extension : String) :
    ∃ first rest, (c.fileName bytes extension).toList = first :: rest ∧ IsNameChar first := by
  have hlength := HashEncoding.length_spell c.encoding (Sha256.digest bytes)
  have hpos := c.encoding.length_pos
  cases hchars : (c.encoding.spell (Sha256.digest bytes)).toList with
  | nil =>
    rw [hchars] at hlength
    simp at hlength
    omega
  | cons first rest =>
    refine ⟨first, rest ++ extension.toList, ?_, ?_⟩
    · rw [fileName, contentHash, String.toList_append, hchars, List.cons_append]
    · exact HashEncoding.isNameChar_spell _ _ first (by rw [hchars]; exact List.mem_cons_self)

theorem isFileName_fileName (bytes : ByteArray) {extension : String}
    (h : '/' ∉ extension.toList) : Path.IsFileName (Utf8.encode (c.fileName bytes extension)) := by
  obtain ⟨first, rest, hname, hfirst⟩ := c.exists_toList_fileName bytes extension
  refine Path.isFileName_encode ?_ ⟨?_, ?_, ?_⟩
  · rw [fileName, contentHash, String.toList_append, List.mem_append, not_or]
    exact ⟨fun hmem => (HashEncoding.isNameChar_spell _ _ _ hmem).2 rfl, h⟩
  all_goals
    intro heq
    rw [heq] at hname
  · cases hname
  · exact hfirst.1 (List.cons.inj hname).1.symm
  · exact hfirst.1 (List.cons.inj hname).1.symm

theorem toList_tempName (draw : Uuid) : (tempName draw).toList =
    '.' :: (Hex.encodeChars draw.bytes.toList ++ ['.', 't', 'm', 'p']) := by
  have hname : tempName draw = "." ++ draw.digits ++ ".tmp" := rfl
  have hdigits : draw.digits.toList = Hex.encodeChars draw.bytes.toList := by
    rw [Uuid.digits, Hex.encode, String.toList_ofList]
  rw [hname, String.toList_append, String.toList_append, hdigits]
  rfl

theorem isFileName_tempName (draw : Uuid) : Path.IsFileName (Utf8.encode (tempName draw)) := by
  have hlong {name : String} (hname : name.toList.length ≤ 2) : tempName draw ≠ name := by
    rintro rfl
    simp [toList_tempName] at hname
  refine Path.isFileName_encode ?_ ⟨hlong (by decide), hlong (by decide), hlong (by decide)⟩
  · rw [toList_tempName, List.mem_cons, List.mem_append]
    rintro (hdot | hdigit | hlast)
    · exact absurd hdot (by decide)
    · exact (Hex.isNameChar_encodeChars _ _ hdigit).2 rfl
    · exact absurd hlast (by decide)

/-- No cached file is taken for one that is still being written. -/
theorem fileName_ne_tempName (bytes : ByteArray) (extension : String) (draw : Uuid) :
    c.fileName bytes extension ≠ tempName draw := by
  intro heq
  obtain ⟨first, rest, hname, hfirst⟩ := c.exists_toList_fileName bytes extension
  have hchars := toList_tempName draw
  rw [← heq, hname] at hchars
  exact hfirst.1 (List.cons.inj hchars).1

/-- Files with one name have the digest of one content. -/
theorem digest_eq_of_fileName_eq {bytes other : ByteArray} {extension ending : String}
    (h : c.fileName bytes extension = c.fileName other ending) :
    Sha256.digest bytes = Sha256.digest other := by
  have hchars := congrArg String.toList h
  rw [fileName, fileName, String.toList_append, String.toList_append] at hchars
  have hlength : (contentHash bytes c.encoding).toList.length =
      (contentHash other c.encoding).toList.length := by
    rw [contentHash, contentHash, HashEncoding.length_spell, HashEncoding.length_spell]
  have hhash := (List.append_inj hchars hlength).1
  exact HashEncoding.spell_injective (String.toList_inj.mp hhash)

end Cache

end ImageImports
