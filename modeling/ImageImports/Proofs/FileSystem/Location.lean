import ImageImports.Proofs.Path.Location

/-!
# Where paths lead

There are no links, so a path leads to its location if it leads anywhere: to the place that its
bytes tell. Every place above that is a directory, which the path has passed. The normal path passes
no other places and has no more bytes, and so it leads to the same place.

## Main definitions

* `FileSystem.Reached`: a place that a walk may come to.

## Main results

* `FileSystem.eq_location_of_locate`: a path leads to its location or nowhere.
* `FileSystem.locate_normalize`: the normal path leads to the same place.
-/

namespace ImageImports.FileSystem

variable {files : FileSystem}

/-! ### Steps and walks -/

/-- A place that a walk may come to: all places above it are directories, and the names on the way
to it are not too long. -/
structure Reached (files : FileSystem) (place : Location) : Prop where
  above : ∀ before name after, place = before ++ name :: after →
    files.entryAt? before = some .directory
  short : ∀ name ∈ place, ¬ nameLimit < name.length

theorem reached_nil : files.Reached [] := ⟨by simp, by simp⟩

theorem Reached.dropLast {place : Location} (h : files.Reached place) :
    files.Reached place.dropLast := by
  rcases List.eq_nil_or_concat place with rfl | ⟨init, last, rfl⟩
  · exact h
  · rw [List.concat_eq_append, List.dropLast_concat]
    refine ⟨fun before name after heq => ?_, fun name hmem => h.short name (by simp [hmem])⟩
    exact h.above before name (after ++ [last]) (by simp [heq])

theorem Reached.concat {place : Location} (h : files.Reached place)
    (hplace : files.entryAt? place = some .directory) {name : List UInt8}
    (hname : ¬ nameLimit < name.length) : files.Reached (place ++ [name]) := by
  refine ⟨fun before other after heq => ?_, fun other hmem => ?_⟩
  · rcases List.eq_nil_or_concat after with rfl | ⟨init, last, rfl⟩
    · rw [← (List.append_inj' heq rfl).1]
      exact hplace
    · rw [List.concat_eq_append, ← List.cons_append, ← List.append_assoc] at heq
      exact h.above before other init (List.append_inj' heq rfl).1
  · rcases List.mem_append.mp hmem with hmem | hmem
    · exact h.short other hmem
    · rwa [List.mem_singleton.mp hmem]

/-- A step leads where its segment says, to a place that a walk may come to. -/
theorem follow_of_enter {place found : Location} {segment : List UInt8}
    (h : files.enter place segment = .ok found) (hplace : files.Reached place) :
    found = Path.follow place segment ∧ files.Reached found := by
  have hdirectory := entryAt?_of_enter h
  rw [enter, hdirectory] at h
  dsimp only at h
  obtain ⟨hnone, -⟩ | ⟨hparent, -⟩ | hnamed := Path.componentOf?_cases segment
  · rw [hnone] at h
    obtain rfl := Except.ok.inj h
    exact ⟨by simp [Path.follow, hnone], hplace⟩
  · rw [hparent] at h
    obtain rfl := Except.ok.inj h
    exact ⟨by simp [Path.follow, hparent], hplace.dropLast⟩
  · rw [hnamed] at h
    dsimp only at h
    split at h
    · cases h
    next hname =>
      obtain rfl := Except.ok.inj h
      exact ⟨by simp [Path.follow, hnamed], hplace.concat hdirectory hname⟩

theorem foldl_follow_of_walk {place found : Location} {segments : List (List UInt8)}
    (h : files.walk place segments = .ok found) (hplace : files.Reached place) :
    found = segments.foldl Path.follow place ∧ files.Reached found := by
  induction segments generalizing place with
  | nil =>
    obtain rfl := Except.ok.inj h
    exact ⟨rfl, hplace⟩
  | cons segment rest ih =>
    rw [walk] at h
    split at h
    · cases h
    next next henter =>
      obtain ⟨rfl, hnext⟩ := follow_of_enter henter hplace
      exact ih h hnext

/-- A path leads to its location or nowhere. -/
theorem eq_location_of_locate {p : Path} {place : Location} (h : files.locate p = .ok place) :
    place = p.location ∧ files.Reached place := by
  rw [locate] at h
  split at h
  · cases h
  · exact foldl_follow_of_walk h reached_nil

/-! ### Normal paths -/

theorem walk_append (files : FileSystem) (place : Location) (segments rest : List (List UInt8)) :
    files.walk place (segments ++ rest) = (files.walk place segments).bind (files.walk · rest) := by
  induction segments generalizing place with
  | nil => rfl
  | cons segment others ih =>
    rw [List.cons_append, walk, walk]
    cases files.enter place segment with
    | error cause => rfl
    | ok next => exact ih next

theorem walk_root {segments : List (List UInt8)}
    (h : ∀ segment ∈ segments, segment = [] ∨ segment = [Path.dot, Path.dot]) :
    files.walk [] segments = .ok [] := by
  induction segments with
  | nil => rfl
  | cons segment rest ih =>
    have henter : files.enter [] segment = .ok [] := by
      rw [enter, entryAt?_root]
      rcases h segment List.mem_cons_self with rfl | rfl <;> rfl
    rw [walk, henter]
    exact ih fun other hmem => h other (List.mem_cons_of_mem _ hmem)

theorem walk_names {names : Location} (hnames : ∀ name ∈ names, Path.IsFileName name)
    (place : Location) (h : files.Reached (place ++ names)) :
    files.walk place names = .ok (place ++ names) := by
  induction names generalizing place with
  | nil => simp [walk]
  | cons name rest ih =>
    have henter : files.enter place name = .ok (place ++ [name]) := by
      rw [enter, h.above place name rest rfl, (hnames name List.mem_cons_self).named]
      exact if_neg (h.short name (by simp))
    rw [walk, henter]
    have hrest := ih (fun other hmem => hnames other (List.mem_cons_of_mem _ hmem))
      (place ++ [name])
      (by simpa using h)
    simpa using hrest

/-- What does not keep a path from being walked does not keep its normal path from it. -/
theorem refusal?_normalize {p : Path} (habsolute : p.isAbsolute = true)
    (h : refusal? p = none) : refusal? p.normalize = none := by
  have hsub := Path.bytes_normalize_sublist habsolute
  have hsize : p.normalize.bytes.length ≤ p.bytes.length := hsub.length_le
  rw [refusal?] at h ⊢
  split at h
  · cases h
  next hfree =>
    split at h
    · cases h
    next hshort =>
      rw [if_neg, if_neg (by omega)]
      simp only [List.contains_iff_mem] at hfree ⊢
      exact fun hmem => hfree (hsub.subset hmem)

/-- The normal path leads to the place to which a path leads. -/
theorem locate_normalize {p : Path} (habsolute : p.isAbsolute = true) {place : Location}
    (h : files.locate p = .ok place) : files.locate p.normalize = .ok place := by
  obtain ⟨rfl, hreached⟩ := eq_location_of_locate h
  have hrefusal : refusal? p = none := by
    rw [locate] at h
    split at h
    · cases h
    next hnone => exact hnone
  have hnames : ∀ name ∈ p.location, Path.IsFileName name := by
    rw [← Path.names_normalForm]
    exact p.proper_normalForm
  obtain ⟨opening, hsegments, hopening⟩ := Path.exists_segments_normalize habsolute
  have hwalk : files.walk [] p.normalize.segments = .ok p.location := by
    rw [hsegments, walk_append, walk_root hopening]
    exact walk_names hnames [] hreached
  rw [locate, refusal?_normalize habsolute hrefusal]
  exact hwalk

end ImageImports.FileSystem
