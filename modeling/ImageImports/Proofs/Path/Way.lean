import ImageImports.Proofs.Path.Location

/-!
# Relative paths as ways

A relative path is a way that can be taken from any place. Its dots resolved by its bytes alone, it
goes up by a number of places and then down by names. A way that goes up by more places than there
are asks for the place above the root, and each time that turns a `..` on or off in the normal form.

## Main definitions

* `Path.Way`: how far up, and the names on the way down.
* `Path.way`: the way that a path is.
* `Path.IsWithin`: a path is a directory or lies below it.

## Main results

* `Path.normalForm_join_eq_along`: where a path leads that is read relative to another one.
* `Path.isWithin_join_iff`: which normal paths lie in a directory of a place.
* `Path.isWithin_normalize_join_iff`: which ways lead into a directory of the place that they are
  taken from.
-/

namespace ImageImports.Path

/-- A way from a place: so many places up, and then down by names. -/
structure Way where
  up : Nat
  names : Location
  deriving DecidableEq

/-- A way that goes on by one more segment. A `..` takes the last name back, and goes up if there is
none. -/
def Way.next (way : Way) (segment : List UInt8) : Way :=
  match componentOf? segment with
  | some (.named name) => { way with names := way.names ++ [name] }
  | some .parent =>
    if way.names = [] then { way with up := way.up + 1 }
    else { way with names := way.names.dropLast }
  | _ => way

/-- The way that a path is, its dots resolved by its bytes alone. -/
def way (p : Path) : Way := p.segments.foldl Way.next ⟨0, []⟩

/-- A path is a directory or lies below it, as far as its components tell. -/
def IsWithin (p directory : Path) : Prop := directory.components <+: p.components

instance (p directory : Path) : Decidable (p.IsWithin directory) :=
  inferInstanceAs (Decidable (_ <+: _))

/-! ### The end of a way -/

namespace NormalForm

variable (n : NormalForm)

/-- The normal form at the end of a way. -/
def along (way : Way) : NormalForm where
  rooted := n.rooted
  above := n.above ^^ decide ((way.up - n.names.length) % 2 = 1)
  names := n.names.take (n.names.length - way.up) ++ way.names

theorem along_start : n.along ⟨0, []⟩ = n := by
  simp [along]

/-- To go up once more from the end of a way takes back the last name that is left of the place, or
asks for the place above the root. -/
theorem next_along_parent (up : Nat) :
    (n.along ⟨up, []⟩).next [dot, dot] = n.along ⟨up + 1, []⟩ := by
  rw [next_parent]
  by_cases hup : up < n.names.length
  · have hnames : n.names ≠ [] := List.ne_nil_of_length_pos (by omega)
    have hleft : (n.along ⟨up, []⟩).names ≠ [] := by
      simp only [along, List.append_nil, ne_eq, List.take_eq_nil_iff, not_or]
      exact ⟨by omega, hnames⟩
    have htake : (n.names.take (n.names.length - up)).dropLast =
        n.names.take (n.names.length - (up + 1)) := by
      rw [List.dropLast_eq_take, List.take_take, List.length_take]
      congr 1
      omega
    have hbelow : up - n.names.length = 0 ∧ up + 1 - n.names.length = 0 := by omega
    rw [if_neg hleft]
    simp only [along, List.append_nil, htake, hbelow]
  · have hleft : (n.along ⟨up, []⟩).names = [] := by
      simp [along, show n.names.length - up = 0 by omega]
    have hparity : decide ((up + 1 - n.names.length) % 2 = 1) =
        !decide ((up - n.names.length) % 2 = 1) := by
      rw [← decide_not, decide_eq_decide]
      omega
    rw [if_pos hleft]
    simp only [along, hparity, Bool.xor_not, NormalForm.mk.injEq, true_and]
    rw [show n.names.length - up = 0 by omega, show n.names.length - (up + 1) = 0 by omega]

theorem next_along (way : Way) (segment : List UInt8) :
    (n.along way).next segment = n.along (way.next segment) := by
  obtain ⟨hnone, -⟩ | ⟨hparent, rfl⟩ | hnamed := componentOf?_cases segment
  · simp [next, Way.next, hnone]
  · by_cases hnil : way.names = []
    · obtain ⟨up, names⟩ := way
      obtain rfl : names = [] := hnil
      exact n.next_along_parent up
    · have hleft : (n.along way).names ≠ [] := by simp [along, hnil]
      rw [next_parent, if_neg hleft]
      simp [along, Way.next, hparent, hnil, List.dropLast_append_of_ne_nil]
  · simp [next, Way.next, hnamed, along]

theorem foldl_next_along (segments : List (List UInt8)) (way : Way) :
    segments.foldl next (n.along way) = n.along (segments.foldl Way.next way) := by
  induction segments generalizing way with
  | nil => rfl
  | cons segment rest ih => rw [List.foldl_cons, next_along, ih, List.foldl_cons]

end NormalForm

/-- A path that is read relative to another one leads to the end of its way from there. -/
theorem normalForm_join_eq_along (base : Path) {p : Path} (h : p.isAbsolute = false) :
    (base.join p).normalForm = base.normalForm.along p.way := by
  rw [normalForm_join base h, way, ← NormalForm.foldl_next_along, NormalForm.along_start]

/-! ### Directories of a place -/

theorem NormalForm.Proper.filterMap_segments {n : NormalForm} (h : n.Proper) :
    n.segments.filterMap componentOf? = n.steps := by
  have hnames (names : Location) (hnames : ∀ name ∈ names, IsFileName name) :
      names.filterMap componentOf? = names.map .named := by
    induction names with
    | nil => rfl
    | cons name rest ih =>
      rw [List.map_cons, List.filterMap_cons_some (hnames name List.mem_cons_self).named,
        ih fun other hmem => hnames other (List.mem_cons_of_mem _ hmem)]
  rw [segments, steps, List.filterMap_append, hnames n.names h]
  cases n.above <;> rfl

/-- The components of a normal absolute path are those of its normal form. -/
theorem components_normalize {p : Path} (h : p.isAbsolute = true) :
    p.normalize.components = .root :: p.normalForm.steps := by
  rw [components_eq, first?, if_pos (isAbsolute_normalize h), segments_normalize, if_pos h,
    List.filterMap_append, ← p.proper_normalForm.filterMap_segments]
  split
  next hnil => rw [hnil]; rfl
  next => rfl

/-- A normal path lies in a directory of a place if it goes on from the location of the place by the
name of the directory. -/
theorem isWithin_join_iff {p base : Path} (hp : p.isAbsolute = true)
    (hbase : base.isAbsolute = true) {name : List UInt8} (hname : IsFileName name) :
    p.normalize.IsWithin (base.normalize.join ⟨name⟩) ↔
      p.normalForm.above = base.normalForm.above ∧ base.location ++ [name] <+: p.location := by
  have hnames {names others : Location} :
      names.map Component.named ++ [.named name] <+: others.map Component.named ↔
        names ++ [name] <+: others := by
    rw [← List.map_singleton, ← List.map_append]
    refine ⟨fun ⟨rest, hrest⟩ => ?_, fun h => h.map _⟩
    obtain ⟨before, after, rfl, hbefore, -⟩ := List.map_eq_append_iff.mp hrest.symm
    obtain rfl := (List.map_inj_right fun _ _ => Component.named.inj).mp hbefore
    exact List.prefix_append _ _
  rw [IsWithin, components_join_of_isFileName _ hname, components_normalize hp,
    components_normalize hbase, List.cons_append, List.cons_prefix_cons, ← names_normalForm,
    ← names_normalForm, NormalForm.steps, NormalForm.steps]
  cases p.normalForm.above <;> cases base.normalForm.above
  · simpa using hnames
  · -- A `..` comes first in the one path, and a name or nothing in the other.
    cases hothers : p.normalForm.names <;> simp
  · cases hothers : base.normalForm.names <;> simp
  · simpa using hnames

/-- A way leads into a directory of the place that it is taken from if it names again the places
that it goes up from, and then the directory. If it goes up beyond the root, it has to do so an even
number of times. -/
theorem isWithin_normalize_join_iff {base p : Path} (hbase : base.isAbsolute = true)
    (hp : p.isAbsolute = false) {name : List UInt8} (hname : IsFileName name) :
    (base.join p).normalize.IsWithin (base.normalize.join ⟨name⟩) ↔
      base.location.drop (base.location.length - p.way.up) ++ [name] <+: p.way.names ∧
        (p.way.up - base.location.length) % 2 = 0 := by
  rw [isWithin_join_iff (isAbsolute_join hbase p) hbase hname, ← names_normalForm,
    ← names_normalForm, normalForm_join_eq_along base hp, and_comm]
  simp only [NormalForm.along]
  refine and_congr ?_ ?_
  · refine Iff.trans ?_ (List.prefix_append_right_inj
      (base.normalForm.names.take (base.normalForm.names.length - p.way.up)))
    rw [← List.append_assoc, List.take_append_drop]
  · cases base.normalForm.above <;> simp

end ImageImports.Path
