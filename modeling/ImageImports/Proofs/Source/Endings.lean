import ImageImports.Proofs.Cache.FileNames
import ImageImports.Proofs.Source.Keys
import ImageImports.Proofs.Url.Spelling

/-!
# Endings of cached copies

The ending of a cached copy is read off the reference that was met first. For a URL this is the
ending of its path, which the key determines. For a path it is the ending of the reference as it is
written, up to a `?` or a `#`, while the key comes from its whole text with the dots resolved. The
two agree where a reference ends in the name of its file, and no slash comes after a `?` or a `#`.
A reference to the same file that ends in a slash or in dots has another ending.

## Main definitions

* `Source.Aim`: what the last segment of a reference leads to.
* `Source.EndsAlike`: two references that end in one way.

## Main results

* `Source.extension_eq_of_aim`: the ending of a reference, told by the location of its path.
* `Source.extension_depends_on_spelling`: references with one key and several endings.
* `Source.cached_path_of_alike`: references with one key that end alike have one ending, and a plan
  gives their image one path in a cache, whatever reference comes first.
-/

namespace ImageImports

/-! ### Last segments -/

theorem exists_append_lastSegment (chars : List Char) : ∃ before,
    chars = before ++ lastSegment chars ∧ (before = [] ∨ ∃ above, before = above ++ ['/']) := by
  refine ⟨(chars.reverse.dropWhile (· ≠ '/')).reverse, ?_, ?_⟩
  · rw [lastSegment, ← List.reverse_append, List.takeWhile_append_dropWhile, List.reverse_reverse]
  · cases hdrop : chars.reverse.dropWhile (· ≠ '/') with
    | nil => exact .inl rfl
    | cons c rest =>
      have hc : decide (c ≠ '/') = false := by
        have hhead := List.head?_dropWhile_not (· ≠ '/') chars.reverse
        rwa [hdrop] at hhead
      obtain rfl : c = '/' := by simpa using hc
      exact .inr ⟨rest.reverse, List.reverse_cons⟩

theorem lastSegment_append {before last : List Char}
    (hbefore : before = [] ∨ ∃ above, before = above ++ ['/']) (hlast : '/' ∉ last) :
    lastSegment (before ++ last) = last := by
  have hall : ∀ c ∈ last.reverse, decide (c ≠ '/') = true := fun c hc =>
    decide_eq_true fun heq => hlast (heq ▸ List.mem_reverse.mp hc)
  rw [lastSegment, List.reverse_append, List.takeWhile_append_of_pos hall]
  rcases hbefore with rfl | ⟨above, rfl⟩ <;> simp

theorem Path.exists_segments_ofText (text : String) : ∃ before,
    (ofText text).segments = before ++ [Utf8.encodeChars (lastSegment text.toList)] := by
  obtain ⟨before, hchars, hbefore⟩ := exists_append_lastSegment text.toList
  have hlast := splitSlash_of_notMem
    (Utf8.slash_notMem_encodeChars (slash_notMem_lastSegment text.toList))
  generalize lastSegment text.toList = last at hchars hlast
  have hbytes : (ofText text).bytes = Utf8.encodeChars before ++ Utf8.encodeChars last := by
    rw [ofText, Utf8.encode, hchars, Utf8.encodeChars, List.flatMap_append]
    rfl
  rw [segments, hbytes]
  rcases hbefore with rfl | ⟨above, rfl⟩
  · exact ⟨[], hlast⟩
  · have habove : Utf8.encodeChars (above ++ ['/']) = Utf8.encodeChars above ++ [slash] :=
      List.flatMap_append
    exact ⟨splitSlash (Utf8.encodeChars above), by
      rw [habove, List.append_assoc, List.singleton_append, splitSlash_append, hlast]⟩

namespace Source

variable {ascii : Url.ToAscii} {base : Path} {reference other : String}

/-- What the last segment of a reference leads to: the place where it stands, the one above, or a
file. -/
inductive Aim where
  | here
  | above
  | file
  deriving DecidableEq

/-- What the last segment of a reference leads to. -/
def aimOf (reference : String) : Aim :=
  match Path.componentOf? (Utf8.encodeChars (lastSegment reference.toList)) with
  | some (.named _) => .file
  | some .parent => .above
  | _ => .here

/-- No slash comes after a `?` or a `#`. -/
def SlashesFirst (reference : String) : Prop :=
  '/' ∉ reference.toList.dropWhile fun c => !(c == '?' || c == '#')

instance (reference : String) : Decidable (SlashesFirst reference) :=
  inferInstanceAs (Decidable ('/' ∉ _))

/-- References that end in one way: no slash comes after a `?` or a `#`, and the last segments both
name a file, or both are empty or a `.`, or both are a `..`. -/
structure EndsAlike (reference other : String) : Prop where
  left : SlashesFirst reference
  right : SlashesFirst other
  aim : aimOf reference = aimOf other

theorem all_of_slash_notMem_dropWhile {p : Char → Bool} {above after : List Char}
    (h : '/' ∉ (above ++ '/' :: after).dropWhile p) : ∀ c ∈ above ++ ['/'], p c = true := by
  have hstop {c : Char} {rest : List Char} (hmem : '/' ∈ c :: rest)
      (h : '/' ∉ (c :: rest).dropWhile p) : p c = true := by
    by_cases hc : p c = true
    · exact hc
    · rw [List.dropWhile_cons_of_neg hc] at h
      exact absurd hmem h
  induction above with
  | nil =>
    intro c hc
    rw [List.nil_append, List.mem_singleton] at hc
    rw [hc]
    exact hstop List.mem_cons_self h
  | cons first above ih =>
    have hfirst : p first = true := hstop (by simp) h
    rw [List.cons_append, List.dropWhile_cons_of_pos hfirst] at h
    intro c hc
    rcases List.mem_cons.mp hc with rfl | hc
    · exact hfirst
    · exact ih h c hc

/-- A `?` or a `#` that no slash follows stands in the last segment. -/
theorem lastSegment_beforeQuery {chars : List Char}
    (h : '/' ∉ chars.dropWhile fun c => !(c == '?' || c == '#')) :
    lastSegment (beforeQuery chars) = beforeQuery (lastSegment chars) := by
  obtain ⟨before, hchars, hbefore⟩ := exists_append_lastSegment chars
  have hlast : '/' ∉ beforeQuery (lastSegment chars) := fun hmem =>
    slash_notMem_lastSegment chars (List.takeWhile_subset _ hmem)
  have hplain : ∀ c ∈ before, (!(c == '?' || c == '#')) = true := by
    rcases hbefore with rfl | ⟨above, rfl⟩
    · simp
    · rw [hchars, List.append_assoc, List.singleton_append] at h
      exact all_of_slash_notMem_dropWhile h
  generalize lastSegment chars = last at hchars hlast
  rw [hchars, beforeQuery, List.takeWhile_append_of_pos hplain]
  exact lastSegment_append hbefore hlast

/-- The ending of a reference is that of its last segment. -/
theorem extension_eq_ending (h : SlashesFirst reference) : ImageImports.extension reference =
    String.ofList (ending (beforeQuery (lastSegment reference.toList))) := by
  rw [ImageImports.extension, lastSegment_beforeQuery h]

theorem getLast?_segments_normalize_join (base : Path) (h : aimOf reference = .file) :
    (base.join (.ofText reference)).normalize.segments.getLast? =
      some (Utf8.encodeChars (lastSegment reference.toList)) := by
  obtain ⟨place, hlocation⟩ := base.exists_location_join (.ofText reference)
  obtain ⟨before, hsegments⟩ := Path.exists_segments_ofText reference
  have hlast : (base.join (.ofText reference)).normalForm.segments.getLast? =
      some (Utf8.encodeChars (lastSegment reference.toList)) := by
    rw [Path.NormalForm.segments, Path.names_normalForm, hlocation, hsegments, List.foldl_append,
      List.foldl_cons, List.foldl_nil]
    obtain ⟨hnone, -⟩ | ⟨hparent, -⟩ | hnamed :=
      Path.componentOf?_cases (Utf8.encodeChars (lastSegment reference.toList))
    · simp [aimOf, hnone] at h
    · simp [aimOf, hparent] at h
    · rw [Path.follow, hnamed]
      simp
  have hne : (base.join (.ofText reference)).normalForm.segments ≠ [] := by
    rintro hnil
    simp [hnil] at hlast
  rw [Path.segments_normalize, if_neg hne, List.getLast?_append_of_ne_nil _ hne, hlast]

theorem aimOf_cases (reference : String) :
    aimOf reference = .here ∧
      (lastSegment reference.toList = [] ∨ lastSegment reference.toList = ['.']) ∨
    aimOf reference = .above ∧ lastSegment reference.toList = ['.', '.'] ∨
    aimOf reference = .file := by
  have hread {bytes : List UInt8} (h : Utf8.encodeChars (lastSegment reference.toList) = bytes) :
      lastSegment reference.toList = Utf8.decodeChars bytes := by
    rw [← h, Utf8.decodeChars_encodeChars]
  obtain ⟨hnone, hidle⟩ | ⟨hparent, habove⟩ | hnamed :=
    Path.componentOf?_cases (Utf8.encodeChars (lastSegment reference.toList))
  · exact .inl ⟨by rw [aimOf, hnone], hidle.imp hread hread⟩
  · exact .inr (.inl ⟨by rw [aimOf, hparent], hread habove⟩)
  · exact .inr (.inr (by rw [aimOf, hnamed]))

/-- The ending of a reference that is no URL, told by its path with the dots resolved: that of the
name of the file where the reference ends in it, a dot after a `..`, and none after a `.` or a
slash. -/
theorem extension_eq_of_aim (hreference : Url.parse? ascii reference = none)
    (h : SlashesFirst reference) : (classify ascii reference base).extension reference =
      match aimOf reference with
      | .file => ImageImports.extension (((base.join (.ofText
          reference)).normalize.segments.map Utf8.decode).getLast?.getD "")
      | .above => "."
      | .here => "" := by
  rw [classify_eq_local hreference, extension, extension_eq_ending h]
  obtain ⟨haim, hlast⟩ | ⟨haim, hlast⟩ | haim := aimOf_cases reference
  · rcases hlast with hlast | hlast <;> rw [haim, hlast] <;> rfl
  · rw [haim, hlast]
    rfl
  · have hlast : lastSegment (beforeQuery (lastSegment reference.toList)) =
        beforeQuery (lastSegment reference.toList) :=
      lastSegment_append (.inl rfl) fun hmem =>
        slash_notMem_lastSegment _ (List.takeWhile_subset _ hmem)
    rw [haim]
    dsimp only
    rw [List.getLast?_map, getLast?_segments_normalize_join base haim, Option.map_some,
      Option.getD_some, ImageImports.extension, Utf8.decode, Utf8.decodeChars_encodeChars,
      String.toList_ofList, hlast]

/-- References with one key have one ending, unless they are paths that end in different ways. -/
theorem extension_eq_of_key_eq (hbase : base.isAbsolute = true)
    (hkey : (classify ascii reference base).key = (classify ascii other base).key)
    (halike : Url.parse? ascii reference = none → EndsAlike reference other) :
    (classify ascii reference base).extension reference =
      (classify ascii other base).extension other := by
  have hsame := (key_classify_eq_iff hbase).mp hkey
  cases hreference : Url.parse? ascii reference with
  | none =>
    have hother : Url.parse? ascii other = none := by
      cases hother : Url.parse? ascii other with
      | none => rfl
      | some url =>
        rw [classify_eq_local hreference, classify, hother] at hsame
        cases hsame
    have hsegments := Path.text_eq_text_iff.mp ((key_eq_key_iff_text_eq hreference hother).mp hkey)
    have halike := halike hreference
    rw [extension_eq_of_aim hreference halike.left, extension_eq_of_aim hother halike.right,
      halike.aim, hsegments]
  | some url =>
    cases hother : Url.parse? ascii other with
    | none =>
      rw [classify_eq_local hother, classify, hreference] at hsame
      cases hsame
    | some url' =>
      rw [classify, hreference, classify, hother] at hsame ⊢
      cases hsame with
      | remote _ _ hrender =>
        rw [extension, extension, Url.path_eq_of_render_eq hreference hother hrender]

end Source

namespace Plan

/-- The image of a reference in a plan is made of a reference with the same key. -/
theorem exists_image_of_mem (ascii : Url.ToAscii) (base : Path) {references : List String}
    {reference : String} (h : reference ∈ references) :
    ∃ position image, (ofReferences ascii base references).indexOf? reference = some position ∧
      (ofReferences ascii base references).images[position]? = some image ∧
      image = imageOf ascii base image.reference ∧ image.reference ∈ references ∧
      keyOf ascii base image.reference = keyOf ascii base reference := by
  have hplan : (ofReferences ascii base references).Deduplicates ascii base references :=
    (lists_ofReferences references).deduplicates
  obtain ⟨position, image, hindex, himage, hkey⟩ := hplan.indexed reference h
  obtain ⟨hmade, hfirst⟩ := hplan.first image (List.mem_of_getElem? himage)
  refine ⟨position, image, hindex, himage, hmade, List.mem_of_getElem? hfirst, ?_⟩
  rw [← hkey, keyOf, ← hmade]

end Plan

namespace Source

variable {ascii : Url.ToAscii} {base : Path}

/-- A file has one key however it is referred to, and several endings: a slash or dots after its
name, or a slash after a `?`, leave nothing of the ending of the name. -/
theorem extension_depends_on_spelling : (Path.ofText "/p").isAbsolute = true ∧
    ∀ other ∈ ["logo.png/", "logo.png/.", "logo.png/x/..", "a?b/../logo.png"],
      (classify .ofAscii "logo.png" (.ofText "/p")).key =
        (classify .ofAscii other (.ofText "/p")).key ∧
      (classify .ofAscii "logo.png" (.ofText "/p")).extension "logo.png" ≠
        (classify .ofAscii other (.ofText "/p")).extension other := by
  decide +kernel

/-- The ending of a cached copy belongs to the image, and not to the reference that comes first, as
far as references end alike. Two references with one key that are URLs have one ending, and so have
two that are paths and end alike. If all references of two documents that have one key do so, then
plans of both give the images of this key one path in a cache, in whatever order the references
come. -/
theorem cached_path_of_alike (hbase : base.isAbsolute = true) :
    (∀ reference other, (classify ascii reference base).key = (classify ascii other base).key →
      (Url.parse? ascii reference = none → EndsAlike reference other) →
      (classify ascii reference base).extension reference =
        (classify ascii other base).extension other) ∧
    ∀ references others : List String,
      (∀ reference ∈ references, ∀ other ∈ others,
        (classify ascii reference base).key = (classify ascii other base).key →
        Url.parse? ascii reference = none → EndsAlike reference other) →
      ∀ reference ∈ references, ∀ other ∈ others,
        (classify ascii reference base).key = (classify ascii other base).key →
        ∃ position image position' image',
          (Plan.ofReferences ascii base references).indexOf? reference = some position ∧
          (Plan.ofReferences ascii base references).images[position]? = some image ∧
          (Plan.ofReferences ascii base others).indexOf? other = some position' ∧
          (Plan.ofReferences ascii base others).images[position']? = some image' ∧
          ∀ (cache : Cache) bytes,
            cache.pathFor bytes image.extension = cache.pathFor bytes image'.extension := by
  refine ⟨fun _ _ => extension_eq_of_key_eq hbase,
    fun references others halike reference hmem other hmem' hkey => ?_⟩
  obtain ⟨position, image, hindex, himage, hmade, hfirst, hsame⟩ :=
    Plan.exists_image_of_mem ascii base hmem
  obtain ⟨position', image', hindex', himage', hmade', hfirst', hsame'⟩ :=
    Plan.exists_image_of_mem ascii base hmem'
  have hkeys :
      (classify ascii image.reference base).key = (classify ascii image'.reference base).key :=
    hsame.trans (hkey.trans hsame'.symm)
  have hextension : image.extension = image'.extension := by
    rw [hmade, hmade']
    exact extension_eq_of_key_eq hbase hkeys (halike _ hfirst _ hfirst' hkeys)
  exact ⟨position, image, position', image', hindex, himage, hindex', himage',
    fun cache bytes => by rw [hextension]⟩

/-- Two spellings of a URL, and two of a path in either order. -/
theorem cached_path_of_alike_reordered :
    (classify .ofAscii "HTTP://e.x/a/../logo.png" (.ofText "/p")).extension
        "HTTP://e.x/a/../logo.png" =
      (classify .ofAscii "http://e.x:80/logo.png" (.ofText "/p")).extension
        "http://e.x:80/logo.png" ∧
    ∃ position image position' image',
      (Plan.ofReferences .ofAscii (.ofText "/p") ["../p/logo.png", "logo.png"]).indexOf?
        "logo.png" = some position ∧
      (Plan.ofReferences .ofAscii (.ofText "/p") ["../p/logo.png", "logo.png"]).images[position]? =
        some image ∧
      (Plan.ofReferences .ofAscii (.ofText "/p") ["logo.png", "../p/logo.png"]).indexOf?
        "logo.png" = some position' ∧
      (Plan.ofReferences .ofAscii (.ofText "/p") ["logo.png", "../p/logo.png"]).images[position']? =
        some image' ∧
      ∀ (cache : Cache) bytes,
        cache.pathFor bytes image.extension = cache.pathFor bytes image'.extension := by
  have hbase : (Path.ofText "/p").isAbsolute = true := by decide +kernel
  obtain ⟨hextension, hplan⟩ := @cached_path_of_alike .ofAscii _ hbase
  have hfiles : ∀ reference ∈ ["../p/logo.png", "logo.png"],
      SlashesFirst reference ∧ aimOf reference = .file := by decide +kernel
  have hfiles' : ∀ reference ∈ ["logo.png", "../p/logo.png"],
      SlashesFirst reference ∧ aimOf reference = .file := by decide +kernel
  have hurl : Url.parse? .ofAscii "HTTP://e.x/a/../logo.png" ≠ none := by decide +kernel
  refine ⟨hextension _ _ (by decide +kernel) fun hnone => absurd hnone hurl, ?_⟩
  exact hplan ["../p/logo.png", "logo.png"] ["logo.png", "../p/logo.png"]
    (fun reference hmem other hmem' _ _ => ⟨(hfiles _ hmem).1, (hfiles' _ hmem').1,
      (hfiles _ hmem).2.trans (hfiles' _ hmem').2.symm⟩)
    "logo.png" (by simp) "logo.png" (by simp) rfl

end Source

end ImageImports
