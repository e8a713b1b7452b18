import ImageImports.Program.Factory
import ImageImports.Proofs.Tree.Position

/-!
# The import declarations of a program

Factories are read off the import declarations of a program that are not inside of another one.
Each of them is visited. A node with changed parts has the declarations of the changed parts, or is
one itself and hides them.

## Main results

* `Factory.exists_visit_of_mem_declarations`: every declaration is visited.
* `Factory.declarations_mapParts`: the declarations of a node with changed parts.
-/

namespace ImageImports.Factory

theorem declarationsList_eq_flatMap (elements : List Tree) :
    declarationsList elements = elements.flatMap declarations := by
  induction elements with
  | nil => rfl
  | cons t rest ih => rw [declarationsList, List.flatMap_cons, ih]

theorem declarationsParts_eq_flatMap (fields : List (String × Tree)) :
    declarationsParts fields = fields.flatMap fun pair => declarations pair.2 := by
  induction fields with
  | nil => rfl
  | cons pair rest ih => rw [declarationsParts, List.flatMap_cons, ih]

theorem declarations_list (elements : List Tree) :
    declarations (.list elements) = elements.flatMap declarations := by
  rw [declarations, declarationsList_eq_flatMap]

theorem declarations_object (fields : List (String × Tree)) :
    declarations (.object fields) =
      if (Tree.object fields).isKind "ImportDeclaration" then [.object fields]
      else fields.flatMap fun pair => declarations pair.2 := by
  rw [declarations, declarationsParts_eq_flatMap]

/-- Every declaration that is looked at is visited. -/
theorem exists_visit_of_mem_declarations {declaration : Tree} (t : Tree) : ∀ chained : Bool,
    declaration ∈ declarations t → declaration.isKind "ImportDeclaration" = true ∧
      ∃ v ∈ t.visitsFrom chained, v.node = declaration := by
  induction t using Tree.induction with
  | object fields ih =>
    intro chained h
    rw [declarations_object] at h
    rw [Tree.visitsFrom, Tree.visitsParts_eq_map]
    split at h
    next hkind =>
      obtain rfl := List.mem_singleton.mp h
      exact ⟨hkind, _, List.mem_cons_self, rfl⟩
    next =>
      obtain ⟨⟨part, t⟩, hmem, h⟩ := List.mem_flatMap.mp h
      obtain ⟨hkind, v, hv, hnode⟩ :=
        ih part t hmem (Tree.isChainBase (Tree.kindOf fields) part) h
      refine ⟨hkind, v, List.mem_cons_of_mem _ (Program.mem_arrange.mpr ⟨part, _, ?_, hv⟩), hnode⟩
      exact List.mem_map_of_mem hmem
  | list elements ih =>
    intro chained h
    rw [declarations_list] at h
    obtain ⟨t, ht, h⟩ := List.mem_flatMap.mp h
    obtain ⟨hkind, v, hv, hnode⟩ := ih t ht false h
    rw [Tree.visitsFrom, Tree.visitsList_eq_flatMap]
    exact ⟨hkind, v, List.mem_flatMap.mpr ⟨t, ht, hv⟩, hnode⟩
  | _ => intro chained h; cases h

/-- A node that changes its parts and stays what it is has the declarations of the changed parts, if
it is none itself. -/
theorem declarations_mapParts (change : String → Tree → Tree) (fields : List (String × Tree))
    (hkind : ((Tree.object fields).mapParts change).isKind "ImportDeclaration" =
      (Tree.object fields).isKind "ImportDeclaration") :
    declarations ((Tree.object fields).mapParts change) =
      if (Tree.object fields).isKind "ImportDeclaration" then
        [(Tree.object fields).mapParts change]
      else fields.flatMap fun (part, t) => declarations (change part t) := by
  rw [Tree.mapParts] at hkind ⊢
  rw [declarations_object, hkind, List.flatMap_map]

end ImageImports.Factory
