import ImageImports.Proofs.Rewrite.Met

/-!
# Positions in trees

A position is the way from the top of a tree to a tree in it. Every node that stands at a position
is visited, and it is visited as part of an optional chain just when the last step of its position
leads there.

## Main definitions

* `Tree.Step`, `Tree.Position`: a step down, and the steps to a tree.
* `Tree.at?`: the tree at a position.
* `Tree.isChainStep`: a step leads to the call of an optional chain.

## Main results

* `Tree.at?_append`: a position in a tree at a position.
* `Tree.visitsFrom_subset`, `Tree.visitsFrom_subset_of_mem`: the visits of a part are visits of
  the whole.
-/

namespace ImageImports

theorem Program.mem_arrange {α : Type} {order : List String} {results : List (String × List α)}
    {x : α} : x ∈ arrange order results ↔ ∃ part found, (part, found) ∈ results ∧ x ∈ found := by
  simp only [arrange, List.mem_append, List.mem_flatMap, List.mem_filter, Prod.exists]
  constructor
  · rintro (⟨part, -, known, found, ⟨hmem, -⟩, hx⟩ | ⟨part, found, ⟨hmem, -⟩, hx⟩)
    · exact ⟨known, found, hmem, hx⟩
    · exact ⟨part, found, hmem, hx⟩
  · rintro ⟨part, found, hmem, hx⟩
    by_cases hpart : part ∈ order
    · exact Or.inl ⟨part, hpart, part, found, ⟨hmem, beq_self_eq_true part⟩, hx⟩
    · exact Or.inr ⟨part, found, ⟨hmem, by simpa using hpart⟩, hx⟩

namespace Tree

/-- A step down in a tree: to a part of a node, or to an element of a list. -/
inductive Step where
  | part (name : String)
  | element (index : Nat)
  deriving DecidableEq

/-- The steps from the top of a tree to a tree in it. -/
abbrev Position := List Step

/-- The tree to which a step leads. -/
def child? (t : Tree) : Step → Option Tree
  | .part name => t.fields.lookup name
  | .element index => t.elements[index]?

/-- The tree at a position. -/
def at? : Tree → Position → Option Tree
  | t, [] => some t
  | t, step :: rest => (t.child? step).bind fun u => at? u rest

@[simp] theorem at?_nil (t : Tree) : t.at? [] = some t := rfl

theorem at?_cons (t : Tree) (step : Step) (rest : Position) :
    t.at? (step :: rest) = (t.child? step).bind fun u => u.at? rest := rfl

/-- What stands at a position in a tree at a position. -/
theorem at?_append (t : Tree) (place rest : Position) :
    t.at? (place ++ rest) = (t.at? place).bind fun u => u.at? rest := by
  induction place generalizing t with
  | nil => rfl
  | cons step place ih =>
    rw [List.cons_append, at?_cons, at?_cons]
    cases t.child? step with
    | none => rfl
    | some u => exact ih u

theorem child?_of_field? {t u : Tree} {name : String} (h : t.field? name = some u) :
    t.child? (.part name) = some u := by
  rw [field?] at h
  split at h
  · cases h
  · exact h

theorem at?_of_listField {t u : Tree} {name : String} {i : Nat}
    (h : (t.listField name)[i]? = some u) : t.at? [.part name, .element i] = some u := by
  rw [listField] at h
  split at h
  next elements hfield =>
    rw [at?_cons, child?_of_field? hfield]
    change elements[i]?.bind some = some u
    rw [h, Option.bind_some]
  next => simp at h

/-! ### Visits -/

/-- A step leads to the call of an optional chain. -/
def isChainStep (t : Tree) : Step → Bool
  | .part name => isChainBase t.kind? name
  | .element _ => false

/-- What is visited in a part of a tree is visited in the tree. -/
theorem visitsFrom_subset {t u : Tree} {step : Step} (h : t.child? step = some u)
    (chained : Bool) : u.visitsFrom (t.isChainStep step) ⊆ t.visitsFrom chained := by
  intro v hv
  cases t with
  | object fields =>
    cases step with
    | element index => simp [child?, elements] at h
    | part name =>
      obtain ⟨before, after, rfl, -⟩ := List.lookup_eq_some_iff.mp h
      rw [visitsFrom, visitsParts_eq_map]
      refine List.mem_cons_of_mem _ (Program.mem_arrange.mpr ⟨name, _, ?_, hv⟩)
      exact List.mem_map_of_mem (List.mem_append_right _ List.mem_cons_self)
  | list elements =>
    cases step with
    | part name => simp [child?, fields] at h
    | element index =>
      rw [visitsFrom, visitsList_eq_flatMap]
      exact List.mem_flatMap.mpr ⟨u, List.mem_of_getElem? h, hv⟩
  | _ => cases step <;> simp [child?, fields, elements] at h

/-- What is visited in a node that is visited in a tree is visited in the tree. -/
theorem visitsFrom_subset_of_mem (t : Tree) : ∀ {chained : Bool} {v : Visit},
    v ∈ t.visitsFrom chained → v.node.visitsFrom v.chained ⊆ t.visitsFrom chained := by
  induction t using Tree.induction with
  | object fields ih =>
    intro chained v hv
    rw [visitsFrom, List.mem_cons, Program.mem_arrange, visitsParts_eq_map] at hv
    rcases hv with rfl | ⟨part, found, hmem, hv⟩
    · exact List.Subset.refl _
    · obtain ⟨⟨part', t⟩, ht, heq⟩ := List.mem_map.mp hmem
      obtain ⟨rfl, rfl⟩ := Prod.mk.inj heq
      refine List.Subset.trans (ih part' t ht hv) fun w hw => ?_
      rw [visitsFrom, visitsParts_eq_map]
      exact List.mem_cons_of_mem _ (Program.mem_arrange.mpr ⟨part', _, hmem, hw⟩)
  | list elements ih =>
    intro chained v hv
    rw [visitsFrom, visitsList_eq_flatMap] at hv
    obtain ⟨t, ht, hv⟩ := List.mem_flatMap.mp hv
    refine List.Subset.trans (ih t ht hv) fun w hw => ?_
    rw [visitsFrom, visitsList_eq_flatMap]
    exact List.mem_flatMap.mpr ⟨t, ht, hw⟩
  | _ => intro chained v hv; simp [visitsFrom] at hv

end Tree

end ImageImports
