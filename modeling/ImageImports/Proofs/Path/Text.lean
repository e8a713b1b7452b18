import ImageImports.Proofs.Bytes.Utf8
import ImageImports.Proofs.Path.Location

/-!
# Paths that are shown as texts

A path is shown segment by segment, whatever its bytes are. So two paths are shown as one text if
and only if their segments are. A path that is a text is told by what it is shown as, and what is
made of such paths is such a path again.

## Main definitions

* `Path.shownLocation`: the place that a path means, as it is shown.

## Main results

* `Path.segments_ofText_text`: a path is shown segment by segment.
* `Path.text_eq_text_iff`: paths that are shown as one text.
* `Path.isText_iff`: a path is a text if all its segments are.
* `Path.text_normalize_eq_iff`: normal paths that are shown as one text.
* `Path.IsText.join`, `Path.IsText.normalize`, `Path.IsText.eq_of_text_eq`: paths that are texts.
-/

namespace ImageImports

namespace Path

variable {base p q : Path}

@[simp] theorem text_ofText (text : String) : (ofText text).text = text :=
  Utf8.decode_encode text

theorem isText_ofText (text : String) : (ofText text).IsText :=
  congrArg ofText (text_ofText text)

theorem eq_of_segments_eq (h : p.segments = q.segments) : p = q := by
  have hbytes := congrArg joinSlash h
  rw [segments, segments, joinSlash_splitSlash, joinSlash_splitSlash] at hbytes
  exact congrArg Path.mk hbytes

/-- The place that a path means, as it is shown. -/
def shownLocation (p : Path) : List String := p.location.map Utf8.decode

/-! ### Segment by segment -/

theorem encode_decode_joinSlash (segments : List (List UInt8)) :
    Utf8.encode (Utf8.decode (joinSlash segments)) =
      joinSlash (segments.map fun segment => Utf8.encode (Utf8.decode segment)) := by
  simp only [Utf8.encode_decode]
  induction segments with
  | nil => rfl
  | cons first rest ih =>
    cases rest with
    | nil => rfl
    | cons second rest =>
      have hne : (second :: rest).map (fun segment =>
          Utf8.encodeChars (Utf8.decodeChars segment)) ≠ [] := List.cons_ne_nil _ _
      rw [joinSlash_cons (List.cons_ne_nil second rest), Utf8.decodeChars_append_slash,
        List.map_cons, joinSlash_cons hne, ← ih, Utf8.encodeChars, List.flatMap_append]
      rfl

/-- The segments of what a path is shown as are what its segments are shown as. -/
theorem segments_ofText_text (p : Path) : (ofText p.text).segments =
    p.segments.map fun segment => Utf8.encode (Utf8.decode segment) := by
  have hne : p.segments ≠ [] := splitSlash_ne_nil p.bytes
  have hbytes : (ofText p.text).bytes =
      joinSlash (p.segments.map fun segment => Utf8.encode (Utf8.decode segment)) := by
    rw [← encode_decode_joinSlash, segments, joinSlash_splitSlash]
    rfl
  rw [segments, hbytes]
  refine splitSlash_joinSlash (by simpa using hne) fun shown hmem => ?_
  obtain ⟨segment, hsegment, rfl⟩ := List.mem_map.mp hmem
  rw [Utf8.encode_decode]
  exact Utf8.slash_notMem_encodeChars
    (Utf8.slash_notMem_decodeChars (slash_notMem_of_mem_splitSlash hsegment))

/-- Paths are shown as one text if and only if their segments are, one by one. -/
theorem text_eq_text_iff :
    p.text = q.text ↔ p.segments.map Utf8.decode = q.segments.map Utf8.decode := by
  have hshown (p : Path) :
      (ofText p.text).segments = (p.segments.map Utf8.decode).map Utf8.encode := by
    rw [segments_ofText_text, List.map_map]
    rfl
  constructor
  · intro h
    refine (List.map_injective_iff.mpr Utf8.encode_injective) ?_
    rw [← hshown, ← hshown, h]
  · intro h
    have hsame : ofText p.text = ofText q.text :=
      eq_of_segments_eq (by rw [hshown, hshown, h])
    simpa using congrArg text hsame

/-- A path is a text if and only if each of its segments is one. -/
theorem isText_iff :
    p.IsText ↔ ∀ segment ∈ p.segments, Utf8.encode (Utf8.decode segment) = segment := by
  constructor
  · intro h segment hmem
    have hsegments := segments_ofText_text p
    rw [show ofText p.text = p from h] at hsegments
    exact List.map_inj_left.mp (hsegments.symm.trans (List.map_id _).symm) segment hmem
  · intro h
    refine eq_of_segments_eq ?_
    rw [segments_ofText_text, List.map_congr_left h, List.map_id']

/-- A segment that is shown in ASCII is what it is shown as. -/
theorem eq_encode_of_decode_eq {segment : List UInt8} {text : String}
    (htext : (text.toList.all fun c => c.toNat < 128) = true) (h : Utf8.decode segment = text) :
    segment = Utf8.encode text := by
  subst h
  rw [Utf8.decode, String.toList_ofList, List.all_eq_true] at htext
  rw [Utf8.encode_decode,
    Utf8.encodeChars_decodeChars_of_ascii fun c hc => of_decide_eq_true (htext c hc)]

theorem exists_toList_text (h : p.isAbsolute = true) : ∃ rest, p.text.toList = '/' :: rest := by
  obtain ⟨rest, hrest⟩ := isAbsolute_iff.mp h
  refine ⟨Utf8.decodeChars rest, ?_⟩
  rw [text, Utf8.decode, String.toList_ofList, hrest]
  exact Utf8.decodeChars_append_slash [] rest

/-! ### Normal paths -/

theorem names_normalForm_map (p : Path) : p.normalForm.names.map Utf8.decode = p.shownLocation := by
  rw [names_normalForm, shownLocation]

theorem NormalForm.map_decode_segments_eq_iff {n n' : NormalForm} (hn : n.Proper)
    (hn' : n'.Proper) : n.segments.map Utf8.decode = n'.segments.map Utf8.decode ↔
      n.above = n'.above ∧ n.names.map Utf8.decode = n'.names.map Utf8.decode := by
  -- No name is shown as a `..`.
  have hnames {names : Location} (hnames : ∀ name ∈ names, IsFileName name) (rest : List String) :
      names.map Utf8.decode ≠ ".." :: rest := by
    intro h
    obtain ⟨name, others, rfl, hname, -⟩ := List.map_eq_cons_iff.mp h
    have hnamed := (hnames name List.mem_cons_self).named
    rw [eq_encode_of_decode_eq (by decide) hname] at hnamed
    cases hnamed
  have hdots : Utf8.decode [dot, dot] = ".." := by decide
  rw [segments, segments]
  cases n.above <;> cases n'.above
  · simp
  · simpa [hdots] using hnames hn _
  · simpa [hdots] using (hnames hn' _).symm
  · simp

/-- Normal absolute paths are shown as one text if and only if the paths that they come from have
locations that are shown as one, and climb above the root both an even or both an odd number of
times. -/
theorem text_normalize_eq_iff (hp : p.isAbsolute = true) (hq : q.isAbsolute = true) :
    p.normalize.text = q.normalize.text ↔
      p.shownLocation = q.shownLocation ∧ p.climbs % 2 = q.climbs % 2 := by
  have hfilled (n : NormalForm) :
      (if n.segments = [] then [[]] else n.segments).map Utf8.decode =
        if n.segments.map Utf8.decode = [] then [""] else n.segments.map Utf8.decode := by
    by_cases h : n.segments = []
    · rw [h]
      rfl
    · rw [if_neg h, if_neg (by simpa using h)]
  have hempty {n : NormalForm} (hn : n.Proper) : n.segments.map Utf8.decode ≠ [""] := by
    intro h
    obtain ⟨segment, hsegments, hsegment⟩ := List.map_eq_singleton_iff.mp h
    have hproper := hn.of_mem_segments (hsegments ▸ List.mem_singleton_self segment)
    exact hproper.2.1 (eq_encode_of_decode_eq (by decide) hsegment)
  rw [text_eq_text_iff, segments_normalize, segments_normalize, if_pos hp, if_pos hq,
    List.map_append, List.map_append, List.append_cancel_left_eq, hfilled, hfilled,
    ← above_normalForm_eq_iff, ← names_normalForm_map, ← names_normalForm_map, and_comm,
    ← NormalForm.map_decode_segments_eq_iff p.proper_normalForm q.proper_normalForm]
  split_ifs with hnil hnil' hnil'
  · rw [hnil, hnil']
    simp
  · rw [hnil]
    exact iff_of_false (hempty q.proper_normalForm).symm (Ne.symm hnil')
  · rw [hnil']
    exact iff_of_false (hempty p.proper_normalForm) hnil
  · rfl

/-! ### Paths that are texts -/

theorem mem_segments_join {segment : List UInt8} (h : segment ∈ (base.join p).segments) :
    segment ∈ base.segments ∨ segment ∈ p.segments := by
  by_cases habsolute : p.isAbsolute = true
  · rw [join, if_pos habsolute] at h
    exact .inr h
  · by_cases hbase : base.bytes = []
    · rw [join, if_neg habsolute, hbase] at h
      exact .inr h
    · obtain ⟨before, hjoined, hbefore⟩ :=
        exists_bytes_join (Bool.eq_false_iff.mpr habsolute) hbase
      rw [segments, hjoined, splitSlash_append] at h
      refine (List.mem_append.mp h).imp_left fun hmem => ?_
      rw [segments]
      rcases hbefore with hbefore | hbefore
      · rwa [hbefore]
      · rw [hbefore, splitSlash_append]
        exact List.mem_append_left _ hmem

theorem segments_normalForm_sublist (p : Path) : p.normalForm.segments.Sublist p.segments := by
  have hsub := NormalForm.segments_foldl_next_sublist p.segments (n := ⟨p.isAbsolute, false, []⟩)
  exact hsub

/-- A normal path has no segments but those of the path that it comes from, and the ones that make
up its root. -/
theorem mem_segments_normalize {segment : List UInt8} (h : segment ∈ p.normalize.segments) :
    segment = [] ∨ segment ∈ p.segments := by
  rw [segments_normalize, List.mem_append] at h
  rcases h with h | h
  · split at h
    · exact .inl (List.mem_singleton.mp h)
    · cases h
  · split at h
    · exact .inl (List.mem_singleton.mp h)
    · exact .inr (p.segments_normalForm_sublist.subset h)

theorem IsText.join (hbase : base.IsText) (hp : p.IsText) : (base.join p).IsText := by
  rw [isText_iff] at hbase hp ⊢
  exact fun segment hmem => (mem_segments_join hmem).elim (hbase segment) (hp segment)

/-- A path whose last byte is no UTF-8 is shown as another path. -/
example : ofText (⟨[47, 99, 255]⟩ : Path).text ≠ ⟨[47, 99, 255]⟩ := by decide

theorem IsText.normalize (hp : p.IsText) : p.normalize.IsText := by
  rw [isText_iff] at hp ⊢
  intro segment hmem
  rcases mem_segments_normalize hmem with rfl | hmem
  · rfl
  · exact hp segment hmem

/-- A path that is a text has a location that is told by how it is shown. -/
theorem IsText.shownLocation_eq_iff (hp : p.IsText) (hq : q.IsText) :
    p.shownLocation = q.shownLocation ↔ p.location = q.location := by
  have htext {p : Path} (h : p.IsText) : p.shownLocation.map Utf8.encode = p.location := by
    have hnames : p.location.Sublist p.segments := by
      rw [← names_normalForm]
      exact (List.sublist_append_right _ _).trans p.segments_normalForm_sublist
    rw [shownLocation, List.map_map]
    exact (List.map_congr_left fun name hmem =>
      isText_iff.mp h name (hnames.subset hmem)).trans (List.map_id _)
  refine ⟨fun h => ?_, fun h => by rw [shownLocation, h, shownLocation]⟩
  rw [← htext hp, ← htext hq, h]

end Path

end ImageImports
