import ImageImports.Proofs.Tree.Outline

/-!
# What rewriting leaves alone

A call is looked at when its parts are rewritten already. Whether it draws an image, and which
texts it gives as `src`, is told by kinds, names and texts that rewriting the parts does not
touch. So it makes no difference that inner calls come first.

## Main definitions

* `Rewrite.descend`: a node with its parts rewritten, before it is looked at itself.

## Main results

* `Rewrite.rewriteFrom_object`: the rewritten node in terms of `Rewrite.descend`.
* `Rewrite.alike_rewriteFrom`: rewriting keeps the top of every tree.
* `Rewrite.isImage_descend`, `Rewrite.imageTexts_descend`: a call with rewritten parts draws the
  images that it drew before.
-/

namespace ImageImports.Rewrite

variable (names : Call.FactoryNames) (bindings : Bindings)

/-! ### The recursion in closed form -/

theorem rewriteList_eq_map (elements : List Tree) :
    rewriteList names bindings elements = elements.map (rewriteFrom names bindings false) := by
  induction elements with
  | nil => rw [rewriteList, List.map_nil]
  | cons t rest ih => rw [rewriteList, List.map_cons, ih]

theorem rewriteParts_eq_map (kind : Option String) (fields : List (String × Tree)) :
    rewriteParts names bindings kind fields = fields.map fun (part, t) =>
      (part, rewriteFrom names bindings (Tree.isChainBase kind part) t) := by
  induction fields with
  | nil => rw [rewriteParts, List.map_nil]
  | cons pair rest ih => obtain ⟨part, t⟩ := pair; rw [rewriteParts, List.map_cons, ih]

/-- A node with its parts rewritten, before it is looked at itself. -/
def descend (t : Tree) : Tree :=
  t.mapParts fun part u => (rewriteFrom names bindings (Tree.isChainBase t.kind? part) u).tree

theorem tree_rewriteFrom_list (chained : Bool) (elements : List Tree) :
    (rewriteFrom names bindings chained (.list elements)).tree =
      .list (elements.map fun t => (rewriteFrom names bindings false t).tree) := by
  simp [rewriteFrom, rewriteList_eq_map, Function.comp_def]

/-- A rewritten node is the node with rewritten parts, and with its own properties rewritten if it
is an image call then. -/
theorem rewriteFrom_object (chained : Bool) (fields : List (String × Tree)) :
    rewriteFrom names bindings chained (.object fields) =
      finish names bindings chained
        ⟨descend names bindings (.object fields),
         Program.arrange (Program.partOrder (Tree.kindOf fields)) (fields.map fun (part, t) =>
          (part, (rewriteFrom names bindings (Tree.isChainBase (Tree.kindOf fields) part) t).met))⟩
    := by
  rw [rewriteFrom]
  simp [descend, Tree.mapParts, Tree.kindOf, rewriteParts_eq_map, Function.comp_def]

/-! ### Every top is kept -/

theorem updateField_eq_mapParts (name : String) (change : Tree → Tree) (t : Tree) :
    updateField name change t = t.mapParts fun part u => if part == name then change u else u := by
  cases t <;> rfl

theorem alike_updateField (name : String) (change : Tree → Tree) (t : Tree) :
    t.Alike (updateField name change t) := by
  rw [updateField_eq_mapParts]
  exact Tree.alike_mapParts t

theorem alike_rewriteArguments (t : Tree) : t.Alike (rewriteArguments bindings t) := by
  unfold rewriteArguments
  split
  · exact ⟨_, rfl, by simp⟩
  · exact Tree.Alike.refl t

theorem rewriteCall_eq_mapParts (t : Tree) :
    rewriteCall bindings t =
      t.mapParts fun part u => if part == "arguments" then rewriteArguments bindings u else u := by
  rw [rewriteCall, updateField_eq_mapParts]

theorem alike_ite_rewriteArguments (part : String) (t : Tree) :
    t.Alike (if part == "arguments" then rewriteArguments bindings t else t) :=
  Tree.alike_ite (alike_rewriteArguments bindings) _ part t

/-- What comes of a node whose parts are rewritten has changed in its arguments at most. -/
theorem tree_finish (chained : Bool) (inner : Outcome) :
    (finish names bindings chained inner).tree = inner.tree ∨
      (finish names bindings chained inner).tree = rewriteCall bindings inner.tree := by
  unfold finish
  split
  · exact Or.inr rfl
  · exact Or.inl rfl

/-- Rewriting keeps the top of every tree. -/
theorem alike_rewriteFrom (chained : Bool) (t : Tree) :
    t.Alike (rewriteFrom names bindings chained t).tree := by
  cases t with
  | list elements =>
    rw [tree_rewriteFrom_list]
    exact ⟨_, rfl, List.length_map _⟩
  | object fields =>
    have hdescend : (Tree.object fields).Alike (descend names bindings (.object fields)) :=
      Tree.alike_mapParts _
    rw [rewriteFrom_object]
    obtain h | h := tree_finish names bindings chained _ <;> rw [h]
    · exact hdescend
    · exact hdescend.trans (alike_updateField _ _ _)
  | _ => rw [rewriteFrom] <;> simp

theorem textField?_descend (t : Tree) (name : String) :
    (descend names bindings t).textField? name = t.textField? name :=
  Tree.textField?_mapParts (fun _ u => alike_rewriteFrom names bindings _ u) t name

theorem field?_descend (t : Tree) (name : String) :
    (descend names bindings t).field? name = (t.field? name).map fun u =>
      (rewriteFrom names bindings (Tree.isChainBase t.kind? name) u).tree :=
  Tree.field?_mapParts (fun _ u => alike_rewriteFrom names bindings _ u) t name

theorem isKind_descend (t : Tree) (kind : String) :
    (descend names bindings t).isKind kind = t.isKind kind :=
  Tree.isKind_mapParts (fun _ u => alike_rewriteFrom names bindings _ u) t kind

theorem listField_descend (t : Tree) (name : String) :
    (descend names bindings t).listField name =
      (t.listField name).map fun u => (rewriteFrom names bindings false u).tree :=
  Tree.listField_mapParts (fun _ u => alike_rewriteFrom names bindings _ u) t name
    fun elements => tree_rewriteFrom_list names bindings _ elements

/-! ### The texts of a node and the fields that are not arguments -/

/-- A tree is rewritten to its descent, or to its descent with other arguments. -/
theorem tree_rewriteFrom_cases (chained : Bool) {t : Tree}
    (ht : ∀ elements, t ≠ .list elements) :
    (rewriteFrom names bindings chained t).tree = descend names bindings t ∨
      (rewriteFrom names bindings chained t).tree =
        rewriteCall bindings (descend names bindings t) := by
  cases t with
  | list elements => exact absurd rfl (ht elements)
  | object fields => rw [rewriteFrom_object]; exact tree_finish names bindings chained _
  | _ => left; rw [rewriteFrom] <;> simp [descend, Tree.mapParts]

theorem textField?_rewriteFrom (chained : Bool) (t : Tree) (name : String) :
    (rewriteFrom names bindings chained t).tree.textField? name = t.textField? name := by
  by_cases hlist : ∃ elements, t = .list elements
  · obtain ⟨elements, rfl⟩ := hlist
    rw [tree_rewriteFrom_list]
    rfl
  · obtain h | h := tree_rewriteFrom_cases names bindings chained
      fun elements ht => hlist ⟨elements, ht⟩
    · rw [h, textField?_descend]
    · rw [h, rewriteCall_eq_mapParts,
        Tree.textField?_mapParts (alike_ite_rewriteArguments bindings), textField?_descend]

theorem isKind_rewriteFrom (chained : Bool) (t : Tree) (kind : String) :
    (rewriteFrom names bindings chained t).tree.isKind kind = t.isKind kind := by
  rw [Tree.isKind, Tree.isKind, Tree.kind?, Tree.kind?, textField?_rewriteFrom]

theorem field?_rewriteFrom (chained : Bool) (t : Tree) {name : String}
    (hname : name ≠ "arguments") :
    (rewriteFrom names bindings chained t).tree.field? name = (t.field? name).map fun u =>
      (rewriteFrom names bindings (Tree.isChainBase t.kind? name) u).tree := by
  by_cases hlist : ∃ elements, t = .list elements
  · obtain ⟨elements, rfl⟩ := hlist
    rw [tree_rewriteFrom_list]
    rfl
  · obtain h | h := tree_rewriteFrom_cases names bindings chained
      fun elements ht => hlist ⟨elements, ht⟩
    · rw [h, field?_descend]
    · rw [h, rewriteCall_eq_mapParts,
        Tree.field?_mapParts (alike_ite_rewriteArguments bindings), field?_descend]
      simp [hname, Function.comp_def]

theorem isChainBase_eq_false {kind : Option String} {part : String} (hpart : part ≠ "base") :
    Tree.isChainBase kind part = false := by
  simp [Tree.isChainBase, hpart]

/-! ### What tells an image call -/

theorem boundName?_rewriteFrom (chained : Bool) (t : Tree) :
    (rewriteFrom names bindings chained t).tree.boundName? = t.boundName? := by
  by_cases hlist : ∃ elements, t = .list elements
  · obtain ⟨elements, rfl⟩ := hlist
    rw [tree_rewriteFrom_list]
    rfl
  · have hdescend : (descend names bindings t).boundName? = t.boundName? :=
      Tree.boundName?_mapParts (fun _ u => alike_rewriteFrom names bindings _ u) t
    obtain h | h := tree_rewriteFrom_cases names bindings chained
      fun elements ht => hlist ⟨elements, ht⟩
    · rw [h, hdescend]
    · rw [h, rewriteCall_eq_mapParts,
        Tree.boundName?_mapParts (alike_ite_rewriteArguments bindings), hdescend]

theorem isImageMember_rewriteFrom (chained : Bool) (t : Tree) :
    Call.isImageMember (rewriteFrom names bindings chained t).tree = Call.isImageMember t := by
  rw [Call.isImageMember, Call.isImageMember, isKind_rewriteFrom,
    field?_rewriteFrom names bindings chained t (by decide)]
  cases t.field? "property" with
  | none => rfl
  | some property => simp only [Option.map_some, isKind_rewriteFrom, textField?_rewriteFrom]

theorem isObject_rewriteFrom (chained : Bool) (t : Tree) :
    Call.isObject (rewriteFrom names bindings chained t).tree = Call.isObject t :=
  isKind_rewriteFrom names bindings chained t _

theorem expression?_rewriteFrom (argument : Tree) :
    Call.expression? (rewriteFrom names bindings false argument).tree =
      (Call.expression? argument).map fun u => (rewriteFrom names bindings false u).tree := by
  rw [Call.expression?, Call.expression?, field?_rewriteFrom names bindings false _ (by decide),
    isChainBase_eq_false (by decide)]

theorem plainExpression?_rewriteFrom (argument : Tree) :
    Call.plainExpression? (rewriteFrom names bindings false argument).tree =
      (Call.plainExpression? argument).map fun u =>
        (rewriteFrom names bindings false u).tree := by
  rw [Call.plainExpression?, Call.plainExpression?, expression?_rewriteFrom,
    field?_rewriteFrom names bindings false _ (by decide), Option.isSome_map]
  split <;> rfl

theorem sourceText?_rewriteFrom (chained : Bool) (property : Tree) :
    Call.sourceText? (rewriteFrom names bindings chained property).tree =
      Call.sourceText? property := by
  rw [Call.sourceText?, Call.sourceText?,
    field?_rewriteFrom names bindings chained property (by decide),
    field?_rewriteFrom names bindings chained property (by decide), isKind_rewriteFrom]
  cases property.field? "key" with
  | none => rfl
  | some key =>
    cases property.field? "value" with
    | none => rfl
    | some value => simp only [Option.map_some, isKind_rewriteFrom, textField?_rewriteFrom]

theorem listField_rewriteFrom (chained : Bool) (t : Tree) {name : String}
    (hname : name ≠ "arguments") :
    (rewriteFrom names bindings chained t).tree.listField name =
      (t.listField name).map fun u => (rewriteFrom names bindings false u).tree := by
  by_cases hlist : ∃ elements, t = .list elements
  · obtain ⟨elements, rfl⟩ := hlist
    rw [tree_rewriteFrom_list]
    rfl
  · obtain h | h := tree_rewriteFrom_cases names bindings chained
      fun elements ht => hlist ⟨elements, ht⟩
    · rw [h, listField_descend]
    · have hsame (elements : List Tree) : (if name == "arguments" then
          rewriteArguments bindings (.list elements) else .list elements) =
            .list (elements.map id) := by
        simp [hname]
      rw [h, rewriteCall_eq_mapParts,
        Tree.listField_mapParts (alike_ite_rewriteArguments bindings) _ _ hsame, List.map_id,
        listField_descend]

theorem sourceTexts_rewriteFrom (chained : Bool) (t : Tree) :
    Call.sourceTexts (rewriteFrom names bindings chained t).tree = Call.sourceTexts t := by
  rw [Call.sourceTexts, Call.sourceTexts, listField_rewriteFrom names bindings _ _ (by decide),
    List.filterMap_map]
  simp only [Function.comp_def, sourceText?_rewriteFrom]

/-! ### Calls with rewritten parts -/

theorem arguments_descend (call : Tree) :
    Call.arguments (descend names bindings call) =
      (Call.arguments call).map fun u => (rewriteFrom names bindings false u).tree :=
  listField_descend names bindings call _

theorem callsFactory_descend (factories : Call.FactoryNames) (call : Tree) :
    Call.callsFactory factories (descend names bindings call) =
      Call.callsFactory factories call := by
  rw [Call.callsFactory, Call.callsFactory, field?_descend]
  cases call.field? "callee" with
  | none => rfl
  | some callee => simp only [Option.map_some, Option.bind_some, boundName?_rewriteFrom]

/-- Whether a call draws an image does not change when its parts are rewritten. -/
theorem isImage_descend (factories : Call.FactoryNames) (call : Tree) :
    Call.isImage factories (descend names bindings call) = Call.isImage factories call := by
  rw [Call.isImage, Call.isImage, callsFactory_descend, arguments_descend]
  rcases Call.arguments call with _ | ⟨component, _ | ⟨properties, rest⟩⟩
  · rfl
  · rfl
  · simp only [List.map_cons, plainExpression?_rewriteFrom, Option.any_map,
      isImageMember_rewriteFrom, isObject_rewriteFrom]

theorem properties?_descend (call : Tree) :
    Call.properties? (descend names bindings call) =
      (Call.properties? call).map fun u => (rewriteFrom names bindings false u).tree := by
  rw [Call.properties?, Call.properties?, arguments_descend]
  rcases Call.arguments call with _ | ⟨component, _ | ⟨properties, rest⟩⟩
  · rfl
  · rfl
  · simp only [List.map_cons, expression?_rewriteFrom, Option.filter_map]
    simp only [Function.comp_def, isObject_rewriteFrom]

/-- The texts that a call gives as `src` do not change when its parts are rewritten. -/
theorem imageTexts_descend (factories : Call.FactoryNames) (call : Tree) :
    Call.imageTexts factories (descend names bindings call) = Call.imageTexts factories call := by
  rw [Call.imageTexts, Call.imageTexts, isImage_descend, properties?_descend, Option.map_map]
  simp only [Function.comp_def, sourceTexts_rewriteFrom]

end ImageImports.Rewrite
