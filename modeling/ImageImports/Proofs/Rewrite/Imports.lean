import ImageImports.Proofs.Program.Prepend

/-!
# Import declarations of a rewritten program

Rewriting puts in new references to names, but no import declaration: every declaration that is
visited in a rewritten program was visited before, and it binds the names that it bound before. So
a name that the program did not bear is bound by the new imports only.

## Main definitions

* `Import.binds`: an import declaration binds a name.

## Main results

* `Rewrite.flatMap_visits_substitute`: what is read off the visits of a substituted tree.
* `Rewrite.binds_rewrite`: no declaration of a rewritten program binds a fresh name.
* `Import.bindersOf_prepend`: the new imports that bind a fresh name are the only declarations that
  bind it.
-/

namespace ImageImports

/-- An import declaration has a specifier that binds a name. -/
def Import.binds (name : String) (declaration : Tree) : Bool :=
  declaration.isKind "ImportDeclaration" &&
    (declaration.listField "specifiers").any fun specifier =>
      (specifier.field? "local").bind Tree.boundName? == some name

/-- The import declarations of a program that bind a name. -/
def Import.bindersOf (name : String) (program : Tree) : List Tree :=
  (program.visits.map Visit.node).filter (Import.binds name)

/-! ### Names that declarations bind -/

theorem Tree.mem_boundNames_of_binds {program : Tree} {name : String} {v : Visit}
    (hv : v ∈ program.visits) (h : Import.binds name v.node = true) :
    name ∈ program.boundNames := by
  rw [Import.binds, Bool.and_eq_true, List.any_eq_true] at h
  obtain ⟨-, specifier, hspecifier, hname⟩ := h
  obtain ⟨identifier, hidentifier, hbound⟩ := Option.bind_eq_some_iff.mp (beq_iff_eq.mp hname)
  obtain ⟨index, hindex⟩ := List.getElem?_of_mem hspecifier
  -- The identifier is reached from the declaration by three steps, and so it is visited.
  have hkind : identifier.isKind "Identifier" = true := by
    by_contra hkind
    simp [boundName?, hkind] at hbound
  obtain ⟨fields, rfl⟩ := exists_fields_of_isKind hkind
  have hway : v.node.at? ([.part "specifiers", .element index] ++ [.part "local"]) =
      some (.object fields) := by
    rw [at?_append, at?_of_listField hindex, Option.bind_some, at?_cons,
      child?_of_field? hidentifier]
    rfl
  obtain ⟨role, hrole⟩ := Rewrite.Role.exists_reach []
    (if v.chained then .chained else .plain) hway
  have hchained : decide ((if v.chained then Rewrite.Role.chained else .plain) = .chained) =
      v.chained := by
    cases v.chained <;> rfl
  have hsub := Rewrite.Role.visits_reach hrole
  rw [hchained] at hsub
  have hvisit := visitsFrom_subset_of_mem program hv (hsub (by
    rw [visitsFrom]
    exact List.mem_cons_self))
  exact List.mem_filterMap.mpr ⟨_, hvisit, hbound⟩

namespace Rewrite

variable {names : Call.FactoryNames} {bindings : Bindings}

/-! ### Visits of a substituted tree -/

/-- A part of a node keeps its top, since no part is itself a property of a call. -/
theorem alike_substitute_ofPart (role : Role) (node : Tree) (part : String) (t : Tree) :
    t.Alike (substitute names bindings (role.ofPart names node part) t) := by
  refine alike_substitute ?_
  rw [Role.replacement?, if_neg]
  intro hrole
  have hleads := Role.leads_ofStep names role node (.part part)
  rw [show role.ofStep names node (.part part) = .property from hrole] at hleads
  cases hleads

theorem isKind_substituteInside (role : Role) (t : Tree) (kind : String) :
    (substituteInside names bindings role t).isKind kind = t.isKind kind :=
  Tree.isKind_mapParts (fun part u => alike_substitute_ofPart role t part u) t kind

theorem Role.decide_ofElement (role : Role) (index : Nat) :
    decide (role.ofElement index = .chained) = false := by
  unfold ofElement
  split <;> rfl

theorem Role.decide_ofPart (role : Role) (fields : List (String × Tree)) (part : String) :
    decide (role.ofPart names (.object fields) part = .chained) =
      Tree.isChainBase (Tree.kindOf fields) part := by
  rw [Bool.eq_iff_iff, decide_eq_true_iff, ofPart_eq_chained_iff]
  rfl

/-- A node with substituted parts is visited before its parts, and these in their order. -/
theorem visitsFrom_substituteInside (role : Role) (fields : List (String × Tree))
    (chained : Bool) :
    (substituteInside names bindings role (.object fields)).visitsFrom chained =
      ⟨chained, substituteInside names bindings role (.object fields)⟩ ::
        Program.arrange (Program.partOrder (Tree.kindOf fields)) (fields.map fun (part, t) =>
          (part, (substitute names bindings (role.ofPart names (.object fields) part) t).visitsFrom
            (Tree.isChainBase (Tree.kindOf fields) part))) := by
  have hkind : Tree.kindOf (substituteInside names bindings role (.object fields)).fields =
      Tree.kindOf fields :=
    Tree.kind?_mapParts (fun part u => alike_substitute_ofPart role (.object fields) part u)
      (.object fields)
  rw [substituteInside, Tree.mapParts, Tree.fields] at hkind
  rw [substituteInside, Tree.mapParts, Tree.visitsFrom, hkind, Tree.visitsParts_eq_map,
    List.map_map]
  rfl

section

variable {α : Type} {f g : Visit → List α}

/-- What is read off the visits of a substituted tree is what is read off those of the tree, if
nothing is read off a new property and off what it replaces, and the same of every other node. -/
theorem flatMap_visits_substitute
    (hnew : ∀ name chained, ((boundProperty name).visitsFrom chained).flatMap f = [])
    (hinside : ∀ (role : Role) (fields : List (String × Tree)),
      f ⟨decide (role = .chained), substituteInside names bindings role (.object fields)⟩ =
        g ⟨decide (role = .chained), .object fields⟩)
    (t : Tree) : ∀ role : Role,
    (∀ v ∈ t.visitsFrom (decide (role = .chained)), v.chained = false →
      (Call.sourceText? v.node).isSome = true → v.node.visits.flatMap g = []) →
    ((substitute names bindings role t).visitsFrom (decide (role = .chained))).flatMap f =
      (t.visitsFrom (decide (role = .chained))).flatMap g := by
  induction t using Tree.induction with
  | list elements ih =>
    intro role hlost
    rw [Tree.visitsFrom, Tree.visitsList_eq_flatMap] at hlost
    have helement (i : Nat) (t : Tree) (ht : t ∈ elements) :
        ((substitute names bindings (role.ofElement i) t).visitsFrom false).flatMap f =
          (t.visitsFrom false).flatMap g := by
      have hsame := ih t ht (role.ofElement i)
      rw [Role.decide_ofElement] at hsame
      exact hsame fun v hv => hlost v (List.mem_flatMap.mpr ⟨t, ht, hv⟩)
    rw [substitute_list, Tree.visitsFrom, Tree.visitsFrom, Tree.visitsList_eq_flatMap,
      Tree.visitsList_eq_flatMap, List.flatMap_assoc, List.flatMap_assoc, List.flatMap_def,
      List.flatMap_def]
    refine congrArg List.flatten (List.ext_getElem (by simp) fun i hi _ => ?_)
    rw [List.getElem_map, List.getElem_map, List.getElem_mapIdx]
    exact helement i _ (List.getElem_mem _)
  | object fields ih =>
    intro role hlost
    rw [substitute_object]
    cases hreplacement : role.replacement? bindings (.object fields) with
    | some other =>
      obtain ⟨rfl, reference, name, htext, -, rfl⟩ := Role.replacement?_eq_some_iff.mp hreplacement
      have htop : (⟨false, .object fields⟩ : Visit) ∈ (Tree.object fields).visitsFrom false := by
        rw [Tree.visitsFrom]
        exact List.mem_cons_self
      rw [Option.getD_some, hnew]
      exact (hlost _ htop rfl (by rw [htext]; rfl)).symm
    | none =>
      rw [Tree.visitsFrom, Tree.visitsParts_eq_map] at hlost
      rw [Option.getD_none, visitsFrom_substituteInside, Tree.visitsFrom, List.flatMap_cons,
        List.flatMap_cons, hinside, Program.flatMap_arrange, Program.flatMap_arrange,
        Tree.visitsParts_eq_map, List.map_map, List.map_map]
      refine congrArg _ (congrArg _ (List.map_congr_left fun pair hpair => ?_))
      obtain ⟨part, t⟩ := pair
      have hsame := ih part t hpair (role.ofPart names (.object fields) part)
      rw [Role.decide_ofPart] at hsame
      refine congrArg (Prod.mk part) (hsame fun v hv => hlost v ?_)
      exact List.mem_cons_of_mem _ (Program.mem_arrange.mpr
        ⟨part, _, List.mem_map_of_mem hpair, hv⟩)
  | _ => intro role _; rfl

end

/-! ### No declaration is new -/

/-- The specifiers of a declaration are nothing to any call, so each is rewritten by itself. -/
theorem specifiers_substituteInside (role : Role) (t : Tree) :
    (substituteInside names bindings role t).listField "specifiers" =
      (t.listField "specifiers").map fun u => (rewriteFrom names bindings false u).tree := by
  have hplain : role.ofPart names t "specifiers" = .plain := by
    simp [Role.ofPart, isChainBase_eq_false]
  refine Tree.listField_mapParts (fun part u => alike_substitute_ofPart role t part u) t _
    fun elements => ?_
  rw [hplain, substitute_eq_complete, Role.complete, decide_eq_false (by simp),
    tree_rewriteFrom_list]

theorem binds_substituteInside (role : Role) (t : Tree) (name : String) :
    Import.binds name (substituteInside names bindings role t) = Import.binds name t := by
  have hlocal (u : Tree) :
      ((rewriteFrom names bindings false u).tree.field? "local").bind Tree.boundName? =
        (u.field? "local").bind Tree.boundName? := by
    rw [field?_rewriteFrom names bindings false u (by decide)]
    cases u.field? "local" with
    | none => rfl
    | some identifier => exact boundName?_rewriteFrom names bindings _ identifier
  rw [Import.binds, Import.binds, isKind_substituteInside, specifiers_substituteInside,
    List.any_map]
  simp only [Function.comp_def, hlocal]

theorem visitsFrom_boundProperty (name : String) (chained : Bool) :
    (boundProperty name).visitsFrom chained =
      [⟨chained, boundProperty name⟩, ⟨false, .propertyName "src"⟩, ⟨false, .binding name⟩] := rfl

/-- No import declaration of a rewritten program binds a name that the program did not bear. -/
theorem binds_rewrite {program : Tree} {name : String} (hname : name ∉ program.boundNames)
    {v : Visit} (hv : v ∈ (rewrite names bindings program).tree.visits) :
    Import.binds name v.node = false := by
  -- The visits that are read off here are those of declarations that bind the name.
  let binders (v : Visit) : List Unit := if Import.binds name v.node = true then [()] else []
  have hprogram : ∀ u ∈ program.visits, binders u = [] := fun u hu =>
    if_neg fun hbinds => hname (Tree.mem_boundNames_of_binds hu hbinds)
  have hsame : (rewrite names bindings program).tree.visits.flatMap binders =
      program.visits.flatMap binders := by
    rw [tree_rewrite_eq_substitute]
    refine flatMap_visits_substitute (fun given chained => ?_) (fun role fields => ?_) program
      .plain fun u hu hown _ => ?_
    · rw [visitsFrom_boundProperty]
      rfl
    · simp only [binders, binds_substituteInside]
    · have hsub := Tree.visitsFrom_subset_of_mem program hu
      rw [hown] at hsub
      exact List.flatMap_eq_nil_iff.mpr fun w hw => hprogram w (hsub hw)
  rw [List.flatMap_eq_nil_iff.mpr hprogram, List.flatMap_eq_nil_iff] at hsame
  by_contra hbinds
  have hnil := hsame v hv
  rw [show binders v = [()] from if_pos (eq_true_of_ne_false hbinds)] at hnil
  cases hnil

end Rewrite

/-! ### New imports -/

theorem filter_eq_singleton {α β : Type} [DecidableEq β] {key : α → β} {l : List α}
    (hnodup : (l.map key).Nodup) {x : α} (hx : x ∈ l) : l.filter (key · = key x) = [x] := by
  induction l with
  | nil => cases hx
  | cons first rest ih =>
    rw [List.map_cons, List.nodup_cons] at hnodup
    rcases List.mem_cons.mp hx with rfl | hmem
    · have hrest : rest.filter (key · = key x) = [] := by
        rw [List.filter_eq_nil_iff]
        intro other hother
        simp only [decide_eq_true_eq]
        exact fun heq => hnodup.1 (heq ▸ List.mem_map_of_mem hother)
      rw [List.filter_cons_of_pos (by simp), hrest]
    · have hne : key first ≠ key x := fun heq => hnodup.1 (heq ▸ List.mem_map_of_mem hmem)
      rw [List.filter_cons_of_neg (by simpa using hne), ih hnodup.2 hmem]

namespace Import

/-- What is visited in the declaration of an import. -/
theorem visits_declaration (i : Import) :
    i.declaration.visits =
      [⟨false, i.declaration⟩,
       ⟨false, .node "ImportDefaultSpecifier" [("local", .binding i.name)]⟩,
       ⟨false, .binding i.name⟩,
       ⟨false, .node "StringLiteral" [("value", .text i.path)]⟩] := rfl

theorem binds_declaration (i : Import) (name : String) :
    binds name i.declaration = decide (i.name = name) := by
  have hbinds : binds name i.declaration = (some i.name == some name || false) := rfl
  rw [hbinds, Bool.or_false, Bool.eq_iff_iff, beq_iff_eq, decide_eq_true_iff, Option.some.injEq]

theorem filter_binds_declarations (imports : List Import) (name : String) :
    (((imports.map declaration).flatMap (Tree.visitsFrom false)).map Visit.node).filter
      (binds name) = (imports.filter (·.name = name)).map declaration := by
  induction imports with
  | nil => rfl
  | cons i rest ih =>
    have hspecifier : binds name
        (.node "ImportDefaultSpecifier" [("local", .binding i.name)]) = false := rfl
    have hbinding : binds name (.binding i.name) = false := rfl
    have hsource : binds name (.node "StringLiteral" [("value", .text i.path)]) = false := rfl
    have hvisits := visits_declaration i
    rw [Tree.visits] at hvisits
    rw [List.map_cons, List.flatMap_cons, List.map_append, List.filter_append, ih, hvisits]
    simp only [List.map_cons, List.map_nil, List.filter_cons, List.filter_nil, binds_declaration,
      hspecifier, hbinding, hsource]
    by_cases hname : i.name = name <;> simp [hname]

theorem filter_name_eq {imports : List Import} (hnodup : (imports.map Import.name).Nodup)
    {i : Import} (hi : i ∈ imports) : imports.filter (·.name = i.name) = [i] :=
  filter_eq_singleton hnodup hi

/-- A module is visited before its fields, and these in the order in which they are given. -/
theorem visits_module {fields : List (String × Tree)}
    (hkind : (Tree.object fields).isKind "Module" = true) :
    (Tree.object fields).visits =
      ⟨false, .object fields⟩ :: fields.flatMap fun (_, t) => t.visitsFrom false := by
  have hkind' : Tree.kindOf fields = some "Module" := by
    simpa [Tree.isKind, Tree.kindOf] using hkind
  have horder : Program.partOrder (some "Module") = [] := by decide
  have hbase (part : String) : Tree.isChainBase (some "Module") part = false := rfl
  rw [Tree.visits, Tree.visitsFrom, hkind', horder, Program.arrange, Tree.visitsParts_eq_map]
  simp [hbase, List.flatMap_map]

/-- If no declaration of a module binds a name, then the new imports before its body that have the
name are the ones that bind it. -/
theorem bindersOf_prepend (imports : List Import) {program : Tree} {body : List Tree}
    (hkind : program.isKind "Module" = true) (hbody : program.HasBody body) {name : String}
    (hnone : ∀ v ∈ program.visits, binds name v.node = false) :
    bindersOf name (prepend (imports.map declaration) program) =
      (imports.filter (·.name = name)).map declaration := by
  have hkind' := (isKind_prepend (imports.map declaration) hbody "Module").trans hkind
  obtain ⟨before, after, rfl, hbefore, hafter⟩ := hbody.exists_fields
  rw [prepend_object _ hbefore hafter] at hkind' ⊢
  rw [visits_module hkind] at hnone
  rw [bindersOf, visits_module hkind']
  simp only [List.flatMap_append, List.flatMap_cons, Tree.visitsFrom,
    Tree.visitsList_eq_flatMap, List.mem_cons, List.mem_append] at hnone ⊢
  have hempty (visits : List Visit) (h : ∀ v ∈ visits, binds name v.node = false) :
      (visits.map Visit.node).filter (binds name) = [] := by
    rw [List.filter_map, List.map_eq_nil_iff, List.filter_eq_nil_iff]
    intro v hv
    simp [h v hv]
  have htop : binds name (.object (before ++ ("body", .list (imports.map declaration ++ body)) ::
      after)) = false := by
    have hother : (Tree.object (before ++ ("body", .list (imports.map declaration ++ body)) ::
        after)).kind? = some "Module" := by simpa [Tree.isKind] using hkind'
    simp [binds, Tree.isKind, hother]
  simp only [List.map_cons, List.map_append, List.filter_append, List.filter_cons, htop]
  rw [filter_binds_declarations,
    hempty (before.flatMap _) fun v hv => hnone v (Or.inr (Or.inl hv)),
    hempty (body.flatMap _) fun v hv => hnone v (Or.inr (Or.inr (Or.inl hv))),
    hempty (after.flatMap _) fun v hv => hnone v (Or.inr (Or.inr (Or.inr hv)))]
  simp

end Import

end ImageImports
