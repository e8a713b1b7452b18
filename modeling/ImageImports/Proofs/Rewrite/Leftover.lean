import ImageImports.Proofs.Rewrite.Imports

/-!
# What rewriting leaves to find

A rewritten program is read for the texts of its image calls like any other one. Rewriting takes
the texts that are bound to names out of the image calls, and brings in no others: an image call
stays one, and it gives the texts that are bound to no name.

## Main definitions

* `Rewrite.unbound`: the references of a list that are bound to no name.

## Main results

* `Rewrite.textsOfVisit_substituteInside`: the texts that a call of a substituted tree gives.
* `Rewrite.allImageTexts_rewrite`: the texts of the image calls in a rewritten program.
-/

namespace ImageImports

namespace Rewrite

variable (names : Call.FactoryNames) (bindings : Bindings)

/-- The references of a list that are bound to no name. -/
def unbound (references : List String) : List String :=
  references.filter fun reference => (bindings reference).isNone

/-! ### What is left of the properties of a call -/

theorem alike_rewriteObject (t : Tree) : t.Alike (rewriteObject bindings t) :=
  alike_updateField _ _ t

theorem alike_mapElements (change : Tree → Tree) (t : Tree) : t.Alike (t.mapElements change) := by
  cases t with
  | list elements => exact ⟨_, rfl, List.length_map _⟩
  | _ => exact Tree.Alike.refl _

theorem sourceText?_rewriteProperty (property : Tree) :
    Call.sourceText? (rewriteProperty bindings property) =
      (Call.sourceText? property).filter fun reference => (bindings reference).isNone := by
  rw [rewriteProperty]
  cases htext : Call.sourceText? property with
  | none => simp [htext]
  | some reference =>
    rw [Option.bind_some, Option.filter_some]
    cases hname : bindings reference with
    | none => simp [htext]
    | some name => rfl

theorem sourceTexts_rewriteObject (object : Tree) :
    Call.sourceTexts (rewriteObject bindings object) =
      unbound bindings (Call.sourceTexts object) := by
  have hproperties : (rewriteObject bindings object).listField "properties" =
      (object.listField "properties").map (rewriteProperty bindings) := by
    rw [rewriteObject, updateField_eq_mapParts]
    exact Tree.listField_mapParts (Tree.alike_ite (alike_mapElements _) _) object _
      fun elements => rfl
  rw [Call.sourceTexts, Call.sourceTexts, unbound, hproperties, List.filterMap_map,
    List.filter_filterMap]
  exact congrArg (List.filterMap · _) (funext (sourceText?_rewriteProperty bindings))

/-- The expression of an argument is changed alone. -/
theorem expression?_updateField {change : Tree → Tree} (hchange : ∀ t : Tree, t.Alike (change t))
    (argument : Tree) :
    Call.expression? (updateField "expression" change argument) =
      (Call.expression? argument).map change := by
  rw [updateField_eq_mapParts]
  exact Tree.field?_mapParts (Tree.alike_ite hchange _) argument "expression"

/-- An argument with a changed expression is spread if it was before. -/
theorem plainExpression?_updateField {change : Tree → Tree}
    (hchange : ∀ t : Tree, t.Alike (change t)) (argument : Tree) :
    Call.plainExpression? (updateField "expression" change argument) =
      (Call.plainExpression? argument).map change := by
  have hspread : ((updateField "expression" change argument).field? "spread").isSome =
      (argument.field? "spread").isSome := by
    rw [updateField_eq_mapParts, Tree.field?_mapParts (Tree.alike_ite hchange _),
      Option.isSome_map]
  rw [Call.plainExpression?, Call.plainExpression?, hspread, expression?_updateField hchange]
  split <;> rfl

theorem isObject_rewriteObject (t : Tree) :
    Call.isObject (rewriteObject bindings t) = Call.isObject t := by
  rw [rewriteObject, updateField_eq_mapParts]
  exact Tree.isKind_mapParts (Tree.alike_ite (alike_mapElements _) _) t _

/-- The arguments of a call with its properties rewritten. -/
def rewrittenArguments : List Tree → List Tree
  | component :: properties :: rest =>
    component :: updateField "expression" (rewriteObject bindings) properties :: rest
  | arguments => arguments

theorem rewriteArguments_list (arguments : List Tree) :
    rewriteArguments bindings (.list arguments) =
      .list (rewrittenArguments bindings arguments) := by
  rcases arguments with _ | ⟨component, _ | ⟨properties, rest⟩⟩ <;> rfl

section

variable {names bindings} {call other : Tree}

theorem callsFactory_congr (h : other.field? "callee" = call.field? "callee") :
    Call.callsFactory names other = Call.callsFactory names call := by
  rw [Call.callsFactory, Call.callsFactory, h]

variable (hcallee : other.field? "callee" = call.field? "callee")
  (harguments : Call.arguments other = rewrittenArguments bindings (Call.arguments call))

include hcallee harguments

theorem isImage_of_rewritten : Call.isImage names other = Call.isImage names call := by
  rw [Call.isImage, Call.isImage, callsFactory_congr hcallee, harguments]
  rcases Call.arguments call with _ | ⟨component, _ | ⟨properties, rest⟩⟩
  · rfl
  · rfl
  · simp only [rewrittenArguments, plainExpression?_updateField (alike_rewriteObject bindings),
      Option.any_map, isObject_rewriteObject]

theorem imageTexts_of_rewritten :
    Call.imageTexts names other = unbound bindings (Call.imageTexts names call) := by
  have hproperties : Call.properties? other =
      (Call.properties? call).map (rewriteObject bindings) := by
    rw [Call.properties?, Call.properties?, harguments]
    rcases Call.arguments call with _ | ⟨component, _ | ⟨properties, rest⟩⟩
    · rfl
    · rfl
    · simp only [rewrittenArguments, expression?_updateField (alike_rewriteObject bindings),
        Option.filter_map]
      simp only [Function.comp_def, isObject_rewriteObject]
  rw [Call.imageTexts, Call.imageTexts, isImage_of_rewritten hcallee harguments, hproperties]
  split
  · cases Call.properties? call with
    | none => rfl
    | some object => exact sourceTexts_rewriteObject bindings object
  · rfl

end

/-! ### What is left of a node of a substituted tree -/

theorem alike_completePart (role : Role) (node : Tree) (part : String) (t : Tree) :
    t.Alike (role.completePart bindings names node part t) := by
  unfold Role.completePart
  split_ifs
  · exact alike_rewriteArguments bindings t
  · exact alike_rewriteObject bindings t
  · exact alike_mapElements _ t
  · exact Tree.Alike.refl t

/-- The parts of a node are rewritten, and then completed by the calls around them. -/
theorem substituteInside_eq_mapParts (role : Role) (fields : List (String × Tree)) :
    substituteInside names bindings role (.object fields) =
      (descend names bindings (.object fields)).mapParts fun part u =>
        role.completePart bindings names (.object fields) part u :=
  substituteInside_eq_completePart names bindings
    (fun _ t _ => substitute_eq_complete names bindings t) role

section

variable (role : Role) (fields : List (String × Tree))

theorem callee_substituteInside :
    (substituteInside names bindings role (.object fields)).field? "callee" =
      (descend names bindings (.object fields)).field? "callee" := by
  have hsame : role.completePart bindings names (.object fields) "callee" = id := by
    funext u
    simp [Role.completePart]
  rw [substituteInside_eq_mapParts,
    Tree.field?_mapParts (alike_completePart names bindings role (.object fields)), hsame,
    Option.map_id, id]

/-- The arguments of a node are completed if it is an image call. -/
theorem arguments_substituteInside :
    Call.arguments (substituteInside names bindings role (.object fields)) =
      if role.IsImageCall names (.object fields) then
        rewrittenArguments bindings (Call.arguments (descend names bindings (.object fields)))
      else Call.arguments (descend names bindings (.object fields)) := by
  rw [substituteInside_eq_mapParts]
  split
  next hcall =>
    refine Tree.listField_mapParts_list
      (alike_completePart names bindings role (.object fields)) _ _ (fun elements => ?_) rfl
    rw [Role.completePart, if_pos ⟨rfl, hcall⟩, rewriteArguments_list]
  next hcall =>
    have hsame (elements : List Tree) : role.completePart bindings names (.object fields)
        "arguments" (.list elements) = .list (elements.map id) := by
      simp [Role.completePart, hcall]
    exact (Tree.listField_mapParts (alike_completePart names bindings role (.object fields)) _ _
      hsame).trans (List.map_id _)

end

/-- A call of a substituted program gives the texts that it gave before and that are not bound. -/
theorem textsOfVisit_substituteInside (role : Role) (fields : List (String × Tree)) :
    Call.textsOfVisit names
        ⟨decide (role = .chained), substituteInside names bindings role (.object fields)⟩ =
      unbound bindings (Call.textsOfVisit names ⟨decide (role = .chained), .object fields⟩) := by
  have hcallee := callee_substituteInside names bindings role fields
  have harguments := arguments_substituteInside names bindings role fields
  rw [Call.textsOfVisit, Call.textsOfVisit, Tree.isCallVisit, Tree.isCallVisit]
  dsimp only
  rw [isKind_substituteInside]
  split
  next hown =>
    by_cases hdraws : Call.isImage names (.object fields) = true
    · simp only [Bool.and_eq_true, Bool.not_eq_true', decide_eq_false_iff_not] at hown
      rw [if_pos ⟨hown.1, hown.2, hdraws⟩] at harguments
      rw [imageTexts_of_rewritten hcallee harguments, imageTexts_descend]
    · -- What is no image call gives no text before and after.
      rw [if_neg fun hcall => hdraws hcall.2.2] at harguments
      have hnot : Call.isImage names (substituteInside names bindings role (.object fields)) =
          false := by
        rw [Call.isImage, callsFactory_congr hcallee, harguments, ← Call.isImage, isImage_descend]
        exact Bool.eq_false_iff.mpr hdraws
      rw [Call.imageTexts, Call.imageTexts, hnot, if_neg hdraws, if_neg Bool.false_ne_true]
      rfl
  next => rfl

/-! ### What is left of all calls -/

variable {names bindings} {program : Tree}

/-- The image calls of a rewritten program give the texts that they gave before and that are bound
to no name. -/
theorem allImageTexts_rewrite (hplain : PlainTexts program) :
    Call.allImageTexts names (rewrite names bindings program).tree =
      unbound bindings (Call.allImageTexts names program) := by
  rw [tree_rewrite_eq_substitute, Call.allImageTexts_eq_flatMap_visits,
    Call.allImageTexts_eq_flatMap_visits, unbound, List.filter_flatMap]
  refine flatMap_visits_substitute (fun name chained => ?_)
    (textsOfVisit_substituteInside names bindings) program .plain fun v hv _ htext => ?_
  · rw [visitsFrom_boundProperty]
    cases chained <;> rfl
  · -- A text holds no call, and so none is lost with it.
    have hcalls := hplain v hv htext
    rw [List.isEmpty_iff, Tree.calls, List.map_eq_nil_iff, List.filter_eq_nil_iff] at hcalls
    refine List.flatMap_eq_nil_iff.mpr fun w hw => ?_
    rw [Call.textsOfVisit, if_neg (hcalls w hw)]
    rfl

end Rewrite

end ImageImports
