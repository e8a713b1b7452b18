import ImageImports.Proofs.FileSystem.Walk
import ImageImports.Proofs.Path.Normalize
import Mathlib.Data.List.Flatten

/-!
# The normal form of a path

When all dots of a path are resolved, what is left is a root or none, a `..` or none, and the names
after that. These three are found by reading one segment after another, and they spell the normal
path. A normal path gives them back, and so to resolve its dots again changes nothing. A relative
path goes on from the normal form of the path that it is read from.

## Main definitions

* `Path.segments`: the stretches of a path between its slashes.
* `Path.NormalForm`: what is left of a path.
* `Path.normalForm`: the normal form of a path.

## Main results

* `Path.components_join_of_isFileName`: a file in a directory is one step below it.
* `Path.normalize_eq`: the normal path is spelled by the normal form.
* `Path.normalForm_normalize`, `Path.normalize_eq_iff`: the normal path tells the normal form.
* `Path.normalize_normalize`, `Path.normalize_join_normalize`: dots that are resolved twice.
-/

namespace ImageImports.Path

/-- The stretches of a path between its slashes. -/
def segments (p : Path) : List (List UInt8) := splitSlash p.bytes

/-- What is left of a path when its dots are resolved: whether it opens with a root, whether a `..`
comes next, and the names after that. -/
structure NormalForm where
  rooted : Bool
  above : Bool
  names : Location

namespace NormalForm

/-- The normal form after one more segment. A `..` that has no name to remove comes in if there is
none, and goes out if there is one. -/
def next (n : NormalForm) (segment : List UInt8) : NormalForm :=
  match componentOf? segment with
  | some (.named name) => { n with names := n.names ++ [name] }
  | some .parent =>
    if n.names = [] then { n with above := !n.above } else { n with names := n.names.dropLast }
  | _ => n

/-- The components of a normal form after its root. -/
def steps (n : NormalForm) : List Component :=
  (if n.above then [.parent] else []) ++ n.names.map .named

/-- The components of a normal form. -/
def components (n : NormalForm) : List Component :=
  (if n.rooted then [.root] else []) ++ n.steps

/-- The segments that spell a normal form, after its root. -/
def segments (n : NormalForm) : List (List UInt8) :=
  (if n.above then [[dot, dot]] else []) ++ n.names

end NormalForm

/-- The normal form of a path, found from one segment to the next. -/
def normalForm (p : Path) : NormalForm := p.segments.foldl NormalForm.next ⟨p.isAbsolute, false, []⟩

/-! ### Segments -/

theorem slash_notMem_of_mem_splitSlash {bytes segment : List UInt8}
    (h : segment ∈ splitSlash bytes) : slash ∉ segment := by
  induction bytes generalizing segment with
  | nil =>
    simp only [splitSlash, List.mem_singleton] at h
    simp [h]
  | cons c rest ih =>
    rw [splitSlash] at h
    split at h
    · rcases List.mem_cons.mp h with rfl | h
      · simp
      · exact ih h
    next hc =>
      split at h
      next heq => exact absurd heq (splitSlash_ne_nil rest)
      next first others heq =>
        rw [heq] at ih
        rcases List.mem_cons.mp h with rfl | h
        · simpa [Ne.symm hc] using ih List.mem_cons_self
        · exact ih (List.mem_cons_of_mem _ h)

theorem joinSlash_cons {rest : List (List UInt8)} (h : rest ≠ []) (first : List UInt8) :
    joinSlash (first :: rest) = first ++ slash :: joinSlash rest := by
  cases rest with
  | nil => exact absurd rfl h
  | cons second others => rfl

theorem splitSlash_joinSlash {segments : List (List UInt8)} (hne : segments ≠ [])
    (h : ∀ segment ∈ segments, slash ∉ segment) : splitSlash (joinSlash segments) = segments := by
  induction segments with
  | nil => exact absurd rfl hne
  | cons first rest ih =>
    have hfirst := splitSlash_of_notMem (h first List.mem_cons_self)
    by_cases hrest : rest = []
    · rw [hrest]
      exact hfirst
    · rw [joinSlash_cons hrest, splitSlash_append, hfirst,
        ih hrest fun segment hmem => h segment (List.mem_cons_of_mem _ hmem)]
      rfl

theorem joinSlash_splitSlash (bytes : List UInt8) : joinSlash (splitSlash bytes) = bytes := by
  induction bytes with
  | nil => rfl
  | cons c rest ih =>
    have hne := splitSlash_ne_nil rest
    rw [splitSlash]
    split
    next hc => rw [joinSlash_cons hne, ih, hc, List.nil_append]
    next =>
      cases hsplit : splitSlash rest with
      | nil => exact absurd hsplit hne
      | cons first others =>
        rw [hsplit] at ih
        rw [← ih]
        cases others <;> rfl

/-- Segments with a slash before each are joined by slashes after the first one. -/
theorem flatMap_slash {segments : List (List UInt8)} (h : segments ≠ []) :
    segments.flatMap (slash :: ·) = slash :: joinSlash segments := by
  induction segments with
  | nil => exact absurd rfl h
  | cons first rest ih =>
    by_cases hrest : rest = []
    · simp [hrest, joinSlash]
    · rw [List.flatMap_cons, ih hrest, joinSlash_cons hrest, List.cons_append]

/-- A segment stands for nothing, for `..`, or for the name that it spells. -/
theorem componentOf?_cases (segment : List UInt8) :
    componentOf? segment = none ∧ (segment = [] ∨ segment = [dot]) ∨
      componentOf? segment = some .parent ∧ segment = [dot, dot] ∨
        componentOf? segment = some (.named segment) := by
  by_cases hidle : isIdle segment = true
  · refine .inl ⟨if_pos hidle, ?_⟩
    simpa [isIdle] using hidle
  · by_cases hparent : segment = [dot, dot]
    · exact .inr (.inl ⟨by rw [hparent]; rfl, hparent⟩)
    · refine .inr (.inr ?_)
      rw [componentOf?, if_neg hidle, if_neg (by simpa using hparent)]

theorem isFileName_of_componentOf? {segment : List UInt8} (hslash : slash ∉ segment)
    {name : List UInt8} (h : componentOf? segment = some (.named name)) :
    name = segment ∧ IsFileName name := by
  obtain ⟨hnone, -⟩ | ⟨hparent, -⟩ | hnamed := componentOf?_cases segment
  · simp [hnone] at h
  · simp [hparent] at h
  · obtain rfl : segment = name := by simpa [hnamed] using h
    exact ⟨rfl, hslash, hnamed⟩

/-! ### From one segment to the next -/

namespace NormalForm

variable {n : NormalForm} {segment : List UInt8}

theorem next_of_none (h : componentOf? segment = none) : n.next segment = n := by
  simp [next, h]

theorem next_of_named {name : List UInt8} (h : componentOf? segment = some (.named name)) :
    n.next segment = { n with names := n.names ++ [name] } := by
  simp [next, h]

theorem next_parent : n.next [dot, dot] =
    if n.names = [] then { n with above := !n.above } else { n with names := n.names.dropLast } :=
  rfl

theorem push_components {c : Component} (h : componentOf? segment = some c) :
    push n.components.reverse c = (n.next segment).components.reverse := by
  obtain ⟨hnone, -⟩ | ⟨hparent, rfl⟩ | hnamed := componentOf?_cases segment
  · simp [hnone] at h
  · obtain rfl : Component.parent = c := by simpa [hparent] using h
    obtain ⟨rooted, above, names⟩ := n
    rw [next_parent]
    rcases List.eq_nil_or_concat names with rfl | ⟨init, last, rfl⟩
    · cases rooted <;> cases above <;> rfl
    · simp [components, steps, push]
  · obtain rfl : Component.named segment = c := by simpa [hnamed] using h
    simp [next_of_named hnamed, components, steps, push]

theorem foldl_push_components (segments : List (List UInt8)) (n : NormalForm) :
    (segments.filterMap componentOf?).foldl push n.components.reverse =
      (segments.foldl next n).components.reverse := by
  induction segments generalizing n with
  | nil => rfl
  | cons segment rest ih =>
    rw [List.foldl_cons, ← ih]
    cases h : componentOf? segment with
    | none => rw [List.filterMap_cons_none h, next_of_none h]
    | some c => rw [List.filterMap_cons_some h, List.foldl_cons, push_components h]

end NormalForm

/-- The component before those of the segments: the root, or a `.` that opens a relative path. -/
def first? (p : Path) : Option Component :=
  if p.isAbsolute then some .root
  else if p.segments.head? = some [dot] then some .current
  else none

theorem opening_of_relative {p : Path} (h : ¬ p.isAbsolute = true) :
    (∃ rest, p.segments = [dot] :: rest ∧ opening p.bytes = (some .current, rest)) ∨
      p.segments.head? ≠ some [dot] ∧ opening p.bytes = (none, p.segments) := by
  rw [isAbsolute, beq_iff_eq] at h
  rw [segments, opening, if_neg h]
  cases hsplit : splitSlash p.bytes with
  | nil => exact absurd hsplit (splitSlash_ne_nil _)
  | cons first rest =>
    by_cases hdot : first = [dot]
    · subst hdot
      exact .inl ⟨rest, rfl, if_pos rfl⟩
    · exact .inr ⟨by simpa using hdot, if_neg hdot⟩

/-- The components of a path are its first one and those of its segments. -/
theorem components_eq (p : Path) :
    p.components = p.first?.toList ++ p.segments.filterMap componentOf? := by
  have hcomponents : p.components =
      (opening p.bytes).1.toList ++ (opening p.bytes).2.filterMap componentOf? := rfl
  rw [hcomponents, first?]
  by_cases h : p.isAbsolute = true
  · obtain ⟨rest, hrest⟩ := isAbsolute_iff.mp h
    rw [if_pos h, segments, hrest]
    rfl
  · rw [if_neg h]
    rcases opening_of_relative h with ⟨rest, hsegments, hopening⟩ | ⟨hhead, hopening⟩
    · rw [hopening, hsegments]
      rfl
    · rw [hopening, if_neg hhead]

theorem components_of_relative {p : Path} (h : p.isAbsolute = false) :
    p.components.foldl push [] = (p.segments.filterMap componentOf?).foldl push [] := by
  rw [components_eq, first?, h, if_neg Bool.false_ne_true]
  split <;> rfl

theorem resolveDots_components (p : Path) : resolveDots p.components = p.normalForm.components := by
  rw [← List.reverse_reverse p.normalForm.components, resolveDots, List.reverse_inj, normalForm]
  by_cases h : p.isAbsolute = true
  · obtain ⟨rest, hrest⟩ := isAbsolute_iff.mp h
    rw [h, segments, components, hrest]
    exact NormalForm.foldl_push_components (splitSlash rest) ⟨true, false, []⟩
  · rw [Bool.eq_false_iff.mpr h, components_of_relative (Bool.eq_false_iff.mpr h)]
    exact NormalForm.foldl_push_components p.segments ⟨false, false, []⟩

theorem normalize_eq (p : Path) : p.normalize = ofComponents p.normalForm.components := by
  rw [normalize, resolveDots_components]

/-! ### The text of a normal form -/

namespace NormalForm

/-- The names of a normal form are those of files. -/
def Proper (n : NormalForm) : Prop := ∀ name ∈ n.names, IsFileName name

variable {n : NormalForm}

theorem Proper.next (h : n.Proper) {segment : List UInt8} (hslash : slash ∉ segment) :
    (n.next segment).Proper := by
  intro name hmem
  obtain ⟨hnone, -⟩ | ⟨-, rfl⟩ | hnamed := componentOf?_cases segment
  · rw [next_of_none hnone] at hmem
    exact h name hmem
  · rw [next_parent] at hmem
    split at hmem
    · exact h name hmem
    · exact h name (List.dropLast_subset _ hmem)
  · rw [next_of_named hnamed] at hmem
    rcases List.mem_append.mp hmem with hmem | hmem
    · exact h name hmem
    · rw [List.mem_singleton.mp hmem]
      exact (isFileName_of_componentOf? hslash hnamed).2

theorem Proper.foldl_next {segments : List (List UInt8)}
    (hslash : ∀ segment ∈ segments, slash ∉ segment) (h : n.Proper) :
    (segments.foldl NormalForm.next n).Proper := by
  induction segments generalizing n with
  | nil => exact h
  | cons segment rest ih =>
    exact ih (fun other hmem => hslash other (List.mem_cons_of_mem _ hmem))
      (h.next (hslash segment List.mem_cons_self))

theorem Proper.of_mem_segments (h : n.Proper) {segment : List UInt8} (hmem : segment ∈ n.segments) :
    slash ∉ segment ∧ segment ≠ [] ∧ segment ≠ [dot] := by
  rcases List.mem_append.mp hmem with hmem | hmem
  · split at hmem
    · rw [List.mem_singleton.mp hmem]
      decide
    · cases hmem
  · have hfile := h segment hmem
    refine ⟨hfile.noSlash, fun hnil => ?_, fun hdot => ?_⟩
    · have hnamed := hfile.named
      simp [hnil, componentOf?, isIdle] at hnamed
    · have hnamed := hfile.named
      simp [hdot, componentOf?, isIdle] at hnamed

theorem map_bytes_steps (n : NormalForm) : n.steps.map Component.bytes = n.segments := by
  cases h : n.above <;> simp [steps, segments, h, Component.bytes, Function.comp_def]

theorem root_notMem_steps (n : NormalForm) : .root ∉ n.steps := by
  cases h : n.above <;> simp [steps, h]

theorem bytes_ofComponents (n : NormalForm) : (ofComponents n.components).bytes =
    (if n.rooted then [slash] else []) ++ joinSlash n.segments := by
  have htext {cs : List Component} (hne : cs ≠ [.root]) :
      (ofComponents cs).bytes = joinSlash (cs.map Component.bytes) := by
    unfold ofComponents
    split
    · exact absurd rfl hne
    · rfl
  rw [components, ← map_bytes_steps]
  cases n.rooted with
  | false =>
    refine htext fun heq => n.root_notMem_steps ?_
    simpa using congrArg (Component.root ∈ ·) heq
  | true =>
    by_cases hnil : n.steps = []
    · rw [hnil]
      rfl
    · refine (htext (by simpa using hnil)).trans ?_
      exact joinSlash_cons (by simpa using hnil) []

theorem Proper.segments_ofComponents (h : n.Proper) : (ofComponents n.components).segments =
    (if n.rooted then [[]] else []) ++ if n.segments = [] then [[]] else n.segments := by
  have hjoined : splitSlash (joinSlash n.segments) =
      if n.segments = [] then [[]] else n.segments := by
    by_cases hnil : n.segments = []
    · simp [hnil, joinSlash, splitSlash]
    · rw [if_neg hnil]
      exact splitSlash_joinSlash hnil fun segment hmem => (h.of_mem_segments hmem).1
  rw [Path.segments, bytes_ofComponents, ← hjoined]
  cases n.rooted <;> simp [splitSlash]

theorem Proper.isAbsolute_ofComponents (h : n.Proper) :
    (ofComponents n.components).isAbsolute = n.rooted := by
  cases hrooted : n.rooted with
  | true => exact isAbsolute_iff.mpr ⟨joinSlash n.segments, by simp [bytes_ofComponents, hrooted]⟩
  | false =>
    refine Bool.eq_false_iff.mpr fun habsolute => ?_
    obtain ⟨rest, hrest⟩ := isAbsolute_iff.mp habsolute
    -- A slash that comes first would leave an empty segment before it.
    have hsegments := h.segments_ofComponents
    rw [Path.segments, hrest] at hsegments
    by_cases hnil : n.segments = []
    · simp [splitSlash, hrooted, hnil, splitSlash_ne_nil] at hsegments
    · have hmem : [] ∈ n.segments := by
        simp [splitSlash, hrooted, hnil] at hsegments
        simp [← hsegments]
      exact (h.of_mem_segments hmem).2.1 rfl

/-- A normal form is found again from its own segments. -/
theorem Proper.foldl_next_segments (h : n.Proper) :
    n.segments.foldl NormalForm.next ⟨n.rooted, false, []⟩ = n := by
  have hnames (names known : Location) (hnames : ∀ name ∈ names, IsFileName name) :
      (names).foldl NormalForm.next ⟨n.rooted, n.above, known⟩ =
        ⟨n.rooted, n.above, known ++ names⟩ := by
    induction names generalizing known with
    | nil => simp
    | cons name rest ih =>
      rw [List.foldl_cons, next_of_named (hnames name List.mem_cons_self).named,
        ih _ fun other hmem => hnames other (List.mem_cons_of_mem _ hmem)]
      simp
  have habove : (if n.above then [[dot, dot]] else []).foldl NormalForm.next
      ⟨n.rooted, false, []⟩ = ⟨n.rooted, n.above, []⟩ := by
    cases n.above <;> rfl
  rw [segments, List.foldl_append, habove, hnames n.names [] h]
  rfl

theorem Proper.normalForm_ofComponents (h : n.Proper) :
    (ofComponents n.components).normalForm = n := by
  have hroot : (if n.rooted then [[]] else []).foldl NormalForm.next ⟨n.rooted, false, []⟩ =
      ⟨n.rooted, false, []⟩ := by
    cases n.rooted <;> rfl
  have hempty : (if n.segments = [] then [[]] else n.segments).foldl NormalForm.next
      ⟨n.rooted, false, []⟩ = n.segments.foldl NormalForm.next ⟨n.rooted, false, []⟩ := by
    by_cases hnil : n.segments = []
    · rw [if_pos hnil, hnil]
      rfl
    · rw [if_neg hnil]
  rw [normalForm, h.isAbsolute_ofComponents, h.segments_ofComponents, List.foldl_append, hroot,
    hempty, h.foldl_next_segments]

end NormalForm

theorem NormalForm.rooted_next (n : NormalForm) (segment : List UInt8) :
    (n.next segment).rooted = n.rooted := by
  unfold next
  split
  · rfl
  · split <;> rfl
  · rfl

theorem NormalForm.rooted_foldl_next (n : NormalForm) (segments : List (List UInt8)) :
    (segments.foldl NormalForm.next n).rooted = n.rooted := by
  induction segments generalizing n with
  | nil => rfl
  | cons segment rest ih => rw [List.foldl_cons, ih, rooted_next]

theorem rooted_normalForm (p : Path) : p.normalForm.rooted = p.isAbsolute :=
  NormalForm.rooted_foldl_next _ p.segments

/-- The names of the normal form of a path are those of files. -/
theorem proper_normalForm (p : Path) : p.normalForm.Proper :=
  NormalForm.Proper.foldl_next (fun _ hmem => slash_notMem_of_mem_splitSlash hmem)
    (by simp [NormalForm.Proper])

/-- A normal path has the normal form of the path that it comes from. -/
theorem normalForm_normalize (p : Path) : p.normalize.normalForm = p.normalForm := by
  rw [normalize_eq]
  exact p.proper_normalForm.normalForm_ofComponents

/-- Paths are resolved to one path if and only if they have one normal form. -/
theorem normalize_eq_iff {p q : Path} :
    p.normalize = q.normalize ↔ p.normalForm = q.normalForm := by
  refine ⟨fun h => ?_, fun h => by rw [normalize_eq, h, ← normalize_eq]⟩
  rw [← normalForm_normalize, h, normalForm_normalize]

theorem normalize_normalize (p : Path) : p.normalize.normalize = p.normalize :=
  normalize_eq_iff.mpr p.normalForm_normalize

/-! ### Nothing new in a normal path -/

namespace NormalForm

variable (n : NormalForm)

/-- A segment that is read is added to those of a normal form, or left out, or it takes one away. -/
theorem segments_next_sublist (segment : List UInt8) :
    List.Sublist (n.next segment).segments (n.segments ++ [segment]) := by
  obtain ⟨hnone, -⟩ | ⟨-, rfl⟩ | hnamed := componentOf?_cases segment
  · rw [next_of_none hnone]
    exact List.sublist_append_left _ _
  · rw [next_parent]
    by_cases hnil : n.names = []
    · cases h : n.above <;> simp [segments, hnil, h]
    · rw [if_neg hnil]
      refine List.Sublist.trans ?_ (List.sublist_append_left _ _)
      exact ((List.dropLast_sublist n.names)).append_left _
  · simp [next_of_named hnamed, segments]

theorem segments_foldl_next_sublist (segments : List (List UInt8)) :
    List.Sublist (segments.foldl NormalForm.next n).segments (n.segments ++ segments) := by
  induction segments generalizing n with
  | nil => simp
  | cons segment rest ih =>
    have hnext := (n.segments_next_sublist segment).append_right rest
    rw [List.append_assoc, List.singleton_append] at hnext
    exact (ih (n.next segment)).trans hnext

end NormalForm

/-- The text of a normal absolute path is left when parts of the path are taken out. -/
theorem bytes_normalize_sublist {p : Path} (h : p.isAbsolute = true) :
    List.Sublist p.normalize.bytes p.bytes := by
  obtain ⟨rest, hrest⟩ := isAbsolute_iff.mp h
  have hsegments : List.Sublist p.normalForm.segments (splitSlash rest) := by
    rw [normalForm, segments, hrest]
    exact NormalForm.segments_foldl_next_sublist ⟨p.isAbsolute, false, []⟩ (splitSlash rest)
  rw [normalize_eq, NormalForm.bytes_ofComponents, rooted_normalForm, h, if_pos rfl, hrest]
  by_cases hnil : p.normalForm.segments = []
  · simp [hnil, joinSlash]
  · have htext := hsegments.flatMap (slash :: ·)
    rwa [flatMap_slash hnil, flatMap_slash (splitSlash_ne_nil rest), joinSlash_splitSlash] at htext

/-! ### Paths one after another -/

theorem isAbsolute_eq_head? (p : Path) :
    p.isAbsolute = decide (p.bytes.head? = some slash) := by
  rw [isAbsolute]
  cases p.bytes with
  | nil => rfl
  | cons c rest => by_cases hc : c = slash <;> simp [hc]

/-- Where a relative path is read from, its text follows a slash. -/
theorem exists_bytes_join {base p : Path} (h : p.isAbsolute = false)
    (hbase : base.bytes ≠ []) :
    ∃ before, (base.join p).bytes = before ++ slash :: p.bytes ∧
      (base.bytes = before ∨ base.bytes = before ++ [slash]) := by
  cases hlast : base.bytes.getLast? with
  | none => exact absurd (List.getLast?_eq_none_iff.mp hlast) hbase
  | some last =>
    by_cases hslash : last = slash
    · subst hslash
      obtain ⟨before, hbefore⟩ := List.getLast?_eq_some_iff.mp hlast
      exact ⟨before, by rw [join, h, hlast]; simp [hbefore], .inr hbefore⟩
    · exact ⟨base.bytes, by rw [join, h, hlast]; simp [hslash], .inl rfl⟩

theorem isAbsolute_join_eq {base p : Path} (h : p.isAbsolute = false)
    (hbase : base.bytes ≠ []) : (base.join p).isAbsolute = base.isAbsolute := by
  obtain ⟨before, hjoined, hbefore⟩ := exists_bytes_join h hbase
  rw [isAbsolute_eq_head?, isAbsolute_eq_head?, hjoined]
  rcases hbefore with hbefore | hbefore <;> cases before <;> simp_all

theorem isAbsolute_of_isFileName {name : List UInt8} (h : IsFileName name) :
    isAbsolute ⟨name⟩ = false := by
  rw [isAbsolute_eq_head?, decide_eq_false_iff_not]
  exact fun hhead => h.noSlash (List.mem_of_mem_head? hhead)

/-- A file in a directory has the components of the directory and its own name. -/
theorem components_join_of_isFileName (base : Path) {name : List UInt8} (h : IsFileName name) :
    (base.join ⟨name⟩).components = base.components ++ [.named name] := by
  have hrelative : isAbsolute ⟨name⟩ = false := isAbsolute_of_isFileName h
  have hname : [name].filterMap componentOf? = [.named name] := by
    rw [List.filterMap_cons_some h.named, List.filterMap_nil]
  by_cases hbase : base.bytes = []
  · have hjoin : base.join ⟨name⟩ = ⟨name⟩ := by rw [join, hrelative, hbase]; rfl
    have hdot : name ≠ [dot] := fun heq => by
      have hnamed := h.named
      rw [heq] at hnamed
      cases hnamed
    rw [hjoin, components_eq, first?, hrelative, segments, splitSlash_of_notMem h.noSlash, hname,
      components, hbase]
    simp [hdot, opening, splitSlash, componentOf?, isIdle]
  · obtain ⟨before, hjoined, hbefore⟩ := exists_bytes_join hrelative hbase
    have hsegments : (base.join ⟨name⟩).segments = splitSlash before ++ [name] := by
      rw [segments, hjoined, splitSlash_append, splitSlash_of_notMem h.noSlash]
    obtain ⟨first, rest, hsplit⟩ := List.exists_cons_of_ne_nil (splitSlash_ne_nil before)
    have hfirst : (base.join ⟨name⟩).first? = base.first? := by
      rw [first?, first?, isAbsolute_join_eq hrelative hbase, hsegments, segments]
      rcases hbefore with hbefore | hbefore
      · rw [hbefore, hsplit]; rfl
      · rw [hbefore, splitSlash_append, hsplit]; rfl
    have hcomponents : base.segments.filterMap componentOf? =
        (splitSlash before).filterMap componentOf? := by
      rw [segments]
      rcases hbefore with hbefore | hbefore
      · rw [hbefore]
      · rw [hbefore, splitSlash_append, List.filterMap_append]
        exact List.append_nil _
    rw [components_eq, components_eq, hfirst, hsegments, hcomponents, List.filterMap_append, hname,
      List.append_assoc]

theorem normalForm_join (base : Path) {p : Path} (h : p.isAbsolute = false) :
    (base.join p).normalForm = p.segments.foldl NormalForm.next base.normalForm := by
  by_cases hbase : base.bytes = []
  · have hjoin : base.join p = p := by rw [join, h, hbase]; rfl
    rw [hjoin, normalForm, h, normalForm, isAbsolute, segments, segments, hbase]
    rfl
  · obtain ⟨before, hjoined, hbefore⟩ := exists_bytes_join h hbase
    have hnormal : base.normalForm =
        (splitSlash before).foldl NormalForm.next ⟨base.isAbsolute, false, []⟩ := by
      rw [normalForm, segments]
      rcases hbefore with hbefore | hbefore
      · rw [hbefore]
      · rw [hbefore, splitSlash_append, List.foldl_append]
        rfl
    rw [hnormal, normalForm, segments, isAbsolute_join_eq h hbase, hjoined, splitSlash_append,
      List.foldl_append, segments]

/-- To resolve the dots of a path first makes no difference to what is read relative to it. -/
theorem normalize_join_normalize (base p : Path) :
    (base.normalize.join p).normalize = (base.join p).normalize := by
  by_cases h : p.isAbsolute = true
  · rw [join, if_pos h, join, if_pos h]
  · have h := Bool.eq_false_iff.mpr h
    rw [normalize_eq_iff, normalForm_join _ h, normalForm_join _ h, normalForm_normalize]

end ImageImports.Path
