import ImageImports.Proofs.Rewrite.Stability
import Mathlib.Data.List.Perm.Basic

/-!
# References met by rewriting

The texts of image calls are read twice: once from the outside in, before anything is changed, and
once from the inside out while the program is rewritten. Both readings come to the same texts with
the same multiplicities.

## Main results

* `Call.allImageTexts_eq_flatMap_visits`: the texts of a program, visit by visit.
* `Rewrite.perm_met_rewrite`: rewriting meets the texts of the program in some order.
-/

namespace ImageImports

/-! ### Arranged results -/

namespace Program

variable {α β : Type}

/-- What each of the arranged results gives, arranged. -/
theorem flatMap_arrange (order : List String) (results : List (String × List α))
    (f : α → List β) :
    (arrange order results).flatMap f =
      arrange order (results.map fun (part, found) => (part, found.flatMap f)) := by
  simp only [arrange, List.flatMap_append, List.flatMap_assoc, List.filter_map, List.flatMap_map,
    Function.comp_def]

/-- Results that are the same up to order are arranged alike up to order. -/
theorem perm_arrange_map (order : List String) {fields : List (String × Tree)}
    {f g : String → Tree → List α} (h : ∀ part t, (part, t) ∈ fields → (f part t).Perm (g part t)) :
    (arrange order (fields.map fun (part, t) => (part, f part t))).Perm
      (arrange order (fields.map fun (part, t) => (part, g part t))) := by
  have hfilter (p : String → Bool) :
      ((fields.filter (p ·.1)).flatMap fun pair => f pair.1 pair.2).Perm
        ((fields.filter (p ·.1)).flatMap fun pair => g pair.1 pair.2) :=
    List.Perm.flatMap_left _ fun pair hpair => h _ _ (List.mem_of_mem_filter hpair)
  simp only [arrange, List.filter_map, List.flatMap_map, Function.comp_def]
  exact (List.Perm.flatMap_left _ fun part _ => hfilter (· == part)).append
    (hfilter (!order.contains ·))

end Program

/-! ### Texts by visits -/

namespace Call

/-- The texts of the images that a visited node draws as a call of its own. -/
def textsOfVisit (names : FactoryNames) (v : Visit) : List String :=
  if Tree.isCallVisit v then imageTexts names v.node else []

theorem allImageTexts_eq_flatMap_visits (names : FactoryNames) (program : Tree) :
    allImageTexts names program = program.visits.flatMap (textsOfVisit names) := by
  rw [allImageTexts, Tree.calls, List.flatMap_map]
  induction program.visits with
  | nil => rfl
  | cons v rest ih =>
    rw [List.flatMap_cons, ← ih, textsOfVisit, List.filter_cons]
    split
    · rw [List.flatMap_cons]
    · rw [List.nil_append]

end Call

namespace Tree

theorem visitsList_eq_flatMap (elements : List Tree) :
    visitsList elements = elements.flatMap (visitsFrom false) := by
  induction elements with
  | nil => rw [visitsList, List.flatMap_nil]
  | cons t rest ih => rw [visitsList, List.flatMap_cons, ih]

theorem visitsParts_eq_map (kind : Option String) (fields : List (String × Tree)) :
    visitsParts kind fields = fields.map fun (part, t) =>
      (part, visitsFrom (isChainBase kind part) t) := by
  induction fields with
  | nil => rw [visitsParts, List.map_nil]
  | cons pair rest ih => obtain ⟨part, t⟩ := pair; rw [visitsParts, List.map_cons, ih]

end Tree

namespace Rewrite

variable (names : Call.FactoryNames) (bindings : Bindings)

/-- A call gives its texts when its parts are rewritten as it gave them before. -/
theorem met_finish (chained : Bool) (node : Tree) (met : List String) :
    (finish names bindings chained ⟨descend names bindings node, met⟩).met =
      met ++ Call.textsOfVisit names ⟨chained, node⟩ := by
  have hkind := isKind_descend names bindings node "CallExpression"
  have himage := isImage_descend names bindings names node
  rw [finish, Call.textsOfVisit, Tree.isCallVisit]
  dsimp only
  rw [hkind, himage, imageTexts_descend]
  cases hcall : !chained && node.isKind "CallExpression" with
  | false => simp
  | true =>
    cases hdraws : Call.isImage names node with
    | false => simp [Call.imageTexts, hdraws]
    | true => simp

theorem perm_met_rewriteFrom (t : Tree) : ∀ chained : Bool,
    (rewriteFrom names bindings chained t).met.Perm
      ((t.visitsFrom chained).flatMap (Call.textsOfVisit names)) := by
  induction t using Tree.induction with
  | list elements ih =>
    intro chained
    have hmet : (rewriteFrom names bindings chained (.list elements)).met =
        elements.flatMap fun t => (rewriteFrom names bindings false t).met := by
      simp [rewriteFrom, rewriteList_eq_map, List.flatMap_map]
    rw [hmet, Tree.visitsFrom, Tree.visitsList_eq_flatMap, List.flatMap_assoc]
    exact List.Perm.flatMap_left _ fun t ht => ih t ht false
  | object fields ih =>
    intro chained
    rw [rewriteFrom_object, met_finish, Tree.visitsFrom, List.flatMap_cons,
      Program.flatMap_arrange, Tree.visitsParts_eq_map, List.map_map]
    refine List.perm_append_comm.trans (List.Perm.append_left _ ?_)
    exact Program.perm_arrange_map _ fun part t hmem =>
      ih part t hmem (Tree.isChainBase (Tree.kindOf fields) part)
  | _ => intro chained; rfl

/-- Rewriting a program meets the texts of its image calls, each as often as it is given. -/
theorem perm_met_rewrite (program : Tree) :
    (rewrite names bindings program).met.Perm (Call.allImageTexts names program) := by
  rw [Call.allImageTexts_eq_flatMap_visits]
  exact perm_met_rewriteFrom names bindings program false

end Rewrite

end ImageImports
