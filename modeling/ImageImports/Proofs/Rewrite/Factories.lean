import ImageImports.Program.Factory
import ImageImports.Proofs.Program.Declarations
import ImageImports.Proofs.Rewrite.Leftover

/-!
# Factories and image calls of a program with new imports

The factories of a program are read off all its import declarations. Rewriting keeps them in their
order, and an image is imported by its default export, which is no factory. So a program that is
rewritten and has got new imports imports the factories that it imported before, and the imports
hold no image calls.

## Main definitions

* `Rewrite.BareTexts`: no text that is given as `src` holds an import declaration.

## Main results

* `Rewrite.flatMap_declarations_substitute`: what is read off the declarations of a substituted
  tree.
* `Rewrite.factoryNames_rewrite`: the factories that a rewritten program imports.
* `Import.flatMap_visits_inject`: what is read off the visits of a program with new imports.
* `Import.allImageTexts_inject`, `Import.factoryNames_inject`: new imports change neither the texts
  of the image calls nor the factories.
-/

namespace ImageImports

/-! ### Factories -/

namespace Rewrite

/-- No text that is given as `src` holds an import declaration. A text has no parts at all in a
program that is read from a source. -/
def BareTexts (program : Tree) : Prop :=
  ∀ v ∈ program.visits, (Call.sourceText? v.node).isSome = true →
    ∀ w ∈ v.node.visits, w.node.isKind "ImportDeclaration" = false

section

variable (names : Call.FactoryNames) (bindings : Bindings) (isFactory : String → Bool)

theorem factoryBinding?_rewriteFrom (specifier : Tree) :
    Factory.factoryBinding? isFactory (rewriteFrom names bindings false specifier).tree =
      Factory.factoryBinding? isFactory specifier := by
  have hlocal : Factory.localName? (rewriteFrom names bindings false specifier).tree =
      Factory.localName? specifier := by
    rw [Factory.localName?, Factory.localName?,
      field?_rewriteFrom names bindings false _ (by decide)]
    cases specifier.field? "local" with
    | none => rfl
    | some identifier => exact textField?_rewriteFrom names bindings _ identifier "value"
  have himported : Factory.importedName? (rewriteFrom names bindings false specifier).tree =
      Factory.importedName? specifier := by
    rw [Factory.importedName?, Factory.importedName?, hlocal,
      field?_rewriteFrom names bindings false _ (by decide)]
    cases specifier.field? "imported" with
    | none => rfl
    | some identifier => exact textField?_rewriteFrom names bindings _ identifier "value"
  rw [Factory.factoryBinding?, Factory.factoryBinding?, isKind_rewriteFrom, himported, hlocal]

theorem bindingsOf_substituteInside (role : Role) (t : Tree) :
    Factory.bindingsOf isFactory (substituteInside names bindings role t) =
      Factory.bindingsOf isFactory t := by
  rw [Factory.bindingsOf, Factory.bindingsOf, isKind_substituteInside,
    specifiers_substituteInside, List.filterMap_map]
  simp only [Function.comp_def, factoryBinding?_rewriteFrom]

/-- What is read off the declarations of a substituted tree is what is read off those of the tree,
if the texts that are given as `src` hold no declaration. -/
theorem flatMap_declarations_substitute {α : Type} {f : Tree → List α}
    (hinside : ∀ (role : Role) (fields : List (String × Tree)),
      f (substituteInside names bindings role (.object fields)) = f (.object fields))
    (t : Tree) : ∀ (role : Role) (chained : Bool),
    (∀ v ∈ t.visitsFrom chained, (Call.sourceText? v.node).isSome = true →
      Factory.declarations v.node = []) →
    (Factory.declarations (substitute names bindings role t)).flatMap f =
      (Factory.declarations t).flatMap f := by
  induction t using Tree.induction with
  | list elements ih =>
    intro role chained hbare
    rw [Tree.visitsFrom, Tree.visitsList_eq_flatMap] at hbare
    rw [substitute_list, Factory.declarations_list, Factory.declarations_list, List.flatMap_assoc,
      List.flatMap_assoc, List.flatMap_def, List.flatMap_def]
    refine congrArg List.flatten (List.ext_getElem (by simp) fun i hi _ => ?_)
    rw [List.getElem_map, List.getElem_map, List.getElem_mapIdx]
    exact ih _ (List.getElem_mem _) _ false fun v hv =>
      hbare v (List.mem_flatMap.mpr ⟨_, List.getElem_mem _, hv⟩)
  | object fields ih =>
    intro role chained hbare
    rw [Tree.visitsFrom, Tree.visitsParts_eq_map] at hbare
    rw [substitute_object]
    cases hreplacement : role.replacement? bindings (.object fields) with
    | some other =>
      obtain ⟨-, reference, name, htext, -, rfl⟩ := Role.replacement?_eq_some_iff.mp hreplacement
      rw [Option.getD_some, hbare _ List.mem_cons_self (by rw [htext]; rfl)]
      rfl
    | none =>
      rw [Option.getD_none, substituteInside,
        Factory.declarations_mapParts _ _ (isKind_substituteInside role _ _),
        Factory.declarations_object]
      split
      · exact congrArg (· ++ []) (hinside role fields)
      · rw [List.flatMap_assoc, List.flatMap_assoc]
        refine List.flatMap_congr fun pair hpair => ?_
        obtain ⟨part, t⟩ := pair
        refine ih part t hpair _ (Tree.isChainBase (Tree.kindOf fields) part) fun v hv =>
          hbare v (List.mem_cons_of_mem _ (Program.mem_arrange.mpr ⟨part, _, ?_, hv⟩))
        exact List.mem_map_of_mem hpair
  | _ => intro role chained _; rfl

variable {names bindings} {program : Tree}

/-- A rewritten program imports the factories that it imported before, in their order. -/
theorem factoryNames_rewrite (hbare : BareTexts program) :
    Factory.names isFactory (rewrite names bindings program).tree =
      Factory.names isFactory program := by
  rw [tree_rewrite_eq_substitute, Factory.names, Factory.names]
  refine congrArg List.eraseDups (flatMap_declarations_substitute names bindings
    (fun role fields => bindingsOf_substituteInside names bindings isFactory role (.object fields))
    program .plain false fun v hv htext => ?_)
  -- A text holds no import declaration, and so none is lost with it.
  refine List.eq_nil_iff_forall_not_mem.mpr fun declaration hmem => ?_
  obtain ⟨hkind, w, hw, rfl⟩ := Factory.exists_visit_of_mem_declarations v.node false hmem
  rw [hbare v hv htext w hw] at hkind
  cases hkind

end

end Rewrite

/-! ### New imports -/

namespace Import

variable {α : Type} {f : Visit → List α} {program : Tree} {body : List Tree}

/-- What is read off the visits of a module with new items is what is read off those of the module,
if nothing is read off the items and off a module itself. -/
theorem flatMap_visits_prepend {items : List Tree}
    (htop : ∀ t : Tree, t.isKind "Module" = true → f ⟨false, t⟩ = [])
    (hitems : ∀ item ∈ items, item.visits.flatMap f = [])
    (hkind : program.isKind "Module" = true) (hbody : program.HasBody body) :
    (prepend items program).visits.flatMap f = program.visits.flatMap f := by
  have hkind' := (isKind_prepend items hbody "Module").trans hkind
  obtain ⟨before, after, rfl, hbefore, hafter⟩ := hbody.exists_fields
  rw [prepend_object _ hbefore hafter] at hkind' ⊢
  have hnone : (items.flatMap (Tree.visitsFrom false)).flatMap f = [] := by
    rw [List.flatMap_assoc]
    exact List.flatMap_eq_nil_iff.mpr hitems
  rw [visits_module hkind, visits_module hkind']
  simp only [List.flatMap_append, List.flatMap_cons, Tree.visitsFrom, Tree.visitsList_eq_flatMap,
    htop _ hkind, htop _ hkind', hnone, List.nil_append]

/-- What is read off the visits of a program with new imports is what is read off those of the
program, if nothing is read off imports and off a module itself. -/
theorem flatMap_visits_inject (imports : List Import)
    (htop : ∀ t : Tree, t.isKind "Module" = true → f ⟨false, t⟩ = [])
    (hdeclaration : ∀ i : Import, i.declaration.visits.flatMap f = [])
    (hbody : program.HasBody body) :
    (inject imports program).1.visits.flatMap f = program.visits.flatMap f := by
  rw [inject]
  split_ifs with hnone hkind
  · rfl
  · refine flatMap_visits_prepend htop (fun item hitem => ?_) hkind hbody
    obtain ⟨i, -, rfl⟩ := List.mem_map.mp hitem
    exact hdeclaration i
  · rfl

theorem isKind_eq_false {t : Tree} {kind other : String} (h : t.isKind kind = true)
    (hne : kind ≠ other) : t.isKind other = false := by
  rw [Tree.isKind, beq_iff_eq] at h
  rw [Tree.isKind, h]
  simpa using hne

/-- New imports hold no image calls. -/
theorem allImageTexts_inject (names : Call.FactoryNames) (imports : List Import)
    (hbody : program.HasBody body) :
    Call.allImageTexts names (inject imports program).1 = Call.allImageTexts names program := by
  rw [Call.allImageTexts_eq_flatMap_visits, Call.allImageTexts_eq_flatMap_visits]
  refine flatMap_visits_inject imports (fun t hkind => ?_) (fun i => ?_) hbody
  · rw [Call.textsOfVisit, Tree.isCallVisit, isKind_eq_false hkind (by decide)]
    rfl
  · rw [visits_declaration]
    rfl

/-- New imports bind default exports, and so they import no factories. -/
theorem factoryNames_inject (isFactory : String → Bool) (imports : List Import)
    (hbody : program.HasBody body) :
    Factory.names isFactory (inject imports program).1 = Factory.names isFactory program := by
  rw [inject]
  split_ifs with hnone hmodule
  · rfl
  · have hnew : (imports.map declaration).flatMap (fun item =>
        (Factory.declarations item).flatMap (Factory.bindingsOf isFactory)) = [] := by
      rw [List.flatMap_eq_nil_iff, List.forall_mem_map]
      exact fun i _ => rfl
    have hkind := isKind_eq_false hmodule (show "Module" ≠ "ImportDeclaration" by decide)
    have hkind' := (isKind_prepend (imports.map declaration) hbody "ImportDeclaration").trans hkind
    obtain ⟨before, after, rfl, hbefore, hafter⟩ := hbody.exists_fields
    rw [prepend_object _ hbefore hafter] at hkind' ⊢
    rw [Factory.names, Factory.names, Factory.declarations_object, Factory.declarations_object,
      hkind, hkind', if_neg Bool.false_ne_true, if_neg Bool.false_ne_true]
    simp only [List.flatMap_append, List.flatMap_cons, Factory.declarations_list,
      List.flatMap_assoc, hnew, List.nil_append]
  · rfl

end Import

end ImageImports
