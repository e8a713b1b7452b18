import ImageImports.Proofs.Path.NormalForm

/-!
# The location of a path

What a path means by its bytes alone: an empty segment and a `.` say nothing, a name leads to the
place below, and a `..` to the place above. There is nothing above the root, so there a `..` leads
nowhere else. The normal form of a path has these names, and it has a `..` if the path asks for the
place above the root an odd number of times.

## Main definitions

* `Path.location`: the place that a path means by its bytes alone.
* `Path.Resolved`: an absolute path whose dots are resolved.
* `Path.climbs`: how often a path asks for the place above the root.

## Main results

* `Path.resolved_normalize`: what is left of the dots of an absolute path.
* `Path.location_normalize`: the normal path has the location of the path that it comes from.
* `Path.above_normalForm_eq_iff`: paths that ask for the place above the root alike.
-/

namespace ImageImports

namespace Path

/-- The place to which a segment leads by its bytes alone. -/
def follow (place : Location) (segment : List UInt8) : Location :=
  match componentOf? segment with
  | some (.named name) => place ++ [name]
  | some .parent => place.dropLast
  | _ => place

/-- The place that a path means by its bytes alone. -/
def location (p : Path) : Location := p.segments.foldl follow []

/-- An absolute path whose dots are resolved, as far as its text alone can tell: no segment is a
`.`, and a `..` comes right after the root. -/
structure Resolved (p : Path) : Prop where
  absolute : p.isAbsolute = true
  noDot : [dot] ∉ p.segments
  parent : ∀ i, p.segments[i]? = some [dot, dot] → i = 1

/-- How often segments ask for the place above the root. -/
def climbsFrom (place : Location) : List (List UInt8) → Nat
  | [] => 0
  | segment :: rest =>
    climbsFrom (follow place segment) rest + if segment = [dot, dot] ∧ place = [] then 1 else 0

/-- How often a path asks for the place above the root. -/
def climbs (p : Path) : Nat := climbsFrom [] p.segments

/-! ### Names and climbs of a normal form -/

namespace NormalForm

variable (n : NormalForm)

theorem names_next (segment : List UInt8) : (n.next segment).names = follow n.names segment := by
  obtain ⟨hnone, -⟩ | ⟨-, rfl⟩ | hnamed := componentOf?_cases segment
  · simp [next, follow, hnone]
  · rw [next_parent]
    split
    next hnil => simp [hnil, follow, componentOf?, isIdle]
    next => rfl
  · simp [next, follow, hnamed]

theorem names_foldl_next (segments : List (List UInt8)) :
    (segments.foldl NormalForm.next n).names = segments.foldl follow n.names := by
  induction segments generalizing n with
  | nil => rfl
  | cons segment rest ih => rw [List.foldl_cons, List.foldl_cons, ih, names_next]

/-- A `..` comes in or goes out where the place above the root is asked for, and only there. -/
theorem above_next (segment : List UInt8) : (n.next segment).above =
    if segment = [dot, dot] ∧ n.names = [] then !n.above else n.above := by
  obtain ⟨hnone, hidle⟩ | ⟨-, rfl⟩ | hnamed := componentOf?_cases segment
  · have hparent : segment ≠ [dot, dot] := by rcases hidle with rfl | rfl <;> simp
    simp [next_of_none hnone, hparent]
  · rw [next_parent]
    by_cases hnil : n.names = [] <;> simp [hnil]
  · have hparent : segment ≠ [dot, dot] := by
      rintro rfl
      simp [componentOf?, isIdle] at hnamed
    simp [next_of_named hnamed, hparent]

theorem above_foldl_next (segments : List (List UInt8)) :
    (segments.foldl NormalForm.next n).above =
      (n.above ^^ decide (climbsFrom n.names segments % 2 = 1)) := by
  induction segments generalizing n with
  | nil => simp [climbsFrom]
  | cons segment rest ih =>
    rw [List.foldl_cons, ih, names_next, above_next, climbsFrom]
    split
    · have hparity : decide ((climbsFrom (follow n.names segment) rest + 1) % 2 = 1) =
          !decide (climbsFrom (follow n.names segment) rest % 2 = 1) := by
        rw [← decide_not, decide_eq_decide]
        omega
      rw [hparity, Bool.not_xor, Bool.xor_not]
    · rfl

end NormalForm

theorem names_normalForm (p : Path) : p.normalForm.names = p.location :=
  NormalForm.names_foldl_next _ p.segments

/-- A `..` is left over by an odd number of climbs. -/
theorem above_normalForm (p : Path) : p.normalForm.above = decide (p.climbs % 2 = 1) := by
  rw [normalForm, NormalForm.above_foldl_next, Bool.false_xor, climbs]

/-- The normal path has the location of the path that it comes from. -/
theorem location_normalize (p : Path) : p.normalize.location = p.location := by
  rw [← names_normalForm, normalForm_normalize, names_normalForm]

theorem exists_location_join (base p : Path) :
    ∃ place, (base.join p).location = p.segments.foldl follow place := by
  by_cases h : p.isAbsolute = true
  · exact ⟨[], by rw [join, if_pos h, location]⟩
  · refine ⟨base.normalForm.names, ?_⟩
    rw [← names_normalForm, normalForm_join base (Bool.eq_false_iff.mpr h)]
    exact NormalForm.names_foldl_next _ p.segments

theorem location_join_of_isFileName (base : Path) {name : List UInt8} (h : IsFileName name) :
    (base.join ⟨name⟩).location = base.location ++ [name] := by
  rw [← names_normalForm, normalForm_join base (isAbsolute_of_isFileName h),
    NormalForm.names_foldl_next, names_normalForm, segments, splitSlash_of_notMem h.noSlash,
    List.foldl_cons, List.foldl_nil, follow, h.named]

theorem above_normalForm_eq_iff {p q : Path} :
    p.normalForm.above = q.normalForm.above ↔ p.climbs % 2 = q.climbs % 2 := by
  rw [above_normalForm, above_normalForm, decide_eq_decide]
  omega

/-! ### Segments of a normal path -/

theorem segments_normalize (p : Path) : p.normalize.segments =
    (if p.isAbsolute then [[]] else []) ++
      if p.normalForm.segments = [] then [[]] else p.normalForm.segments := by
  rw [normalize_eq, p.proper_normalForm.segments_ofComponents, rooted_normalForm]

theorem exists_segments_normalize {p : Path} (h : p.isAbsolute = true) :
    ∃ opening, p.normalize.segments = opening ++ p.location ∧
      ∀ segment ∈ opening, segment = [] ∨ segment = [dot, dot] := by
  rw [segments_normalize, if_pos h, ← names_normalForm]
  by_cases hnil : p.normalForm.segments = []
  · have hnames : p.normalForm.names = [] := (List.append_eq_nil_iff.mp hnil).2
    exact ⟨[[], []], by rw [if_pos hnil, hnames]; rfl, by simp⟩
  · refine ⟨[] :: if p.normalForm.above then [[dot, dot]] else [], ?_, ?_⟩
    · rw [if_neg hnil, NormalForm.segments]
      rfl
    · cases p.normalForm.above <;> simp

theorem dot_notMem_segments_normalize (p : Path) : [dot] ∉ p.normalize.segments := by
  rw [segments_normalize]
  intro hmem
  rcases List.mem_append.mp hmem with hmem | hmem
  · split at hmem <;> simp at hmem
  · split at hmem
    · simp at hmem
    · exact (p.proper_normalForm.of_mem_segments hmem).2.2 rfl

/-- A `..` in a normal path comes before all names. -/
theorem getElem?_segments_eq_parent {p : Path} {i : Nat}
    (h : p.normalForm.segments[i]? = some [dot, dot]) : i = 0 := by
  have hnames {j : Nat} : (p.normalForm.names)[j]? ≠ some [dot, dot] := by
    intro hj
    have hnamed := (p.proper_normalForm _ (List.mem_of_getElem? hj)).named
    simp [componentOf?, isIdle] at hnamed
  rw [NormalForm.segments] at h
  split at h
  · rcases Nat.eq_zero_or_pos i with rfl | hi
    · rfl
    · rw [List.getElem?_append_right hi] at h
      exact absurd h hnames
  · exact absurd h hnames

/-- A `..` in a normal absolute path follows the root. -/
theorem getElem?_segments_normalize_eq_parent {p : Path} (h : p.isAbsolute = true) {i : Nat}
    (hi : p.normalize.segments[i]? = some [dot, dot]) : i = 1 := by
  rw [segments_normalize, if_pos h] at hi
  cases i with
  | zero => simp at hi
  | succ i =>
    rw [List.singleton_append, List.getElem?_cons_succ] at hi
    split at hi
    · cases i <;> simp at hi
    · rw [getElem?_segments_eq_parent hi]

theorem resolved_normalize {p : Path} (h : p.isAbsolute = true) : p.normalize.Resolved where
  absolute := isAbsolute_normalize h
  noDot := p.dot_notMem_segments_normalize
  parent _ hi := getElem?_segments_normalize_eq_parent h hi

end Path

end ImageImports
