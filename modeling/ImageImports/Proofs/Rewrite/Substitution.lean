import ImageImports.Proofs.Rewrite.Stability
import Mathlib.Tactic.SplitIfs

/-!
# Rewriting as a substitution

Rewriting works from the inside out: a call is looked at when its parts are rewritten. The
substitution works from the outside in on the program as it was: it carries down what each tree is
to the calls around it, and puts a new property in the place of every property of an image call
that gives a bound text as `src`. Both come to the same tree.

## Main definitions

* `Rewrite.Role`: what a tree is to the calls around it.
* `Rewrite.substitute`: a tree with the properties of all its image calls replaced.

## Main results

* `Rewrite.tree_rewrite_eq_substitute`: a rewritten program is its substitution.
-/

namespace ImageImports.Rewrite

/-- What a tree is to the calls around it: nothing, a call of an optional chain, or what an image
call is given, down to a property of its second argument. -/
inductive Role where
  | plain
  | chained
  | arguments
  | argument
  | object
  | properties
  | property
  deriving DecidableEq

namespace Role

variable (names : Call.FactoryNames)

/-- A node in a role is a call of its own that draws an image. -/
def IsImageCall (role : Role) (node : Tree) : Prop :=
  role ≠ .chained ∧ node.isKind "CallExpression" = true ∧ Call.isImage names node = true

instance (role : Role) (node : Tree) : Decidable (role.IsImageCall names node) :=
  inferInstanceAs (Decidable (_ ∧ _ ∧ _))

/-- The role of a part of a node. -/
def ofPart (role : Role) (node : Tree) (part : String) : Role :=
  if Tree.isChainBase node.kind? part then .chained
  else if part = "arguments" ∧ role.IsImageCall names node then .arguments
  else if part = "expression" ∧ role = .argument then .object
  else if part = "properties" ∧ role = .object then .properties
  else .plain

/-- The role of an element of a list. -/
def ofElement : Role → Nat → Role
  | .arguments, 1 => .argument
  | .properties, _ => .property
  | _, _ => .plain

/-- What takes the place of a node: the property with the name that its text is bound to. -/
def replacement? (bindings : Bindings) (role : Role) (node : Tree) : Option Tree :=
  if role = .property then ((Call.sourceText? node).bind bindings).map boundProperty else none

end Role

section

variable (names : Call.FactoryNames) (bindings : Bindings)

mutual

/-- A tree in a role, with the properties of all its image calls replaced. -/
def substitute (role : Role) : Tree → Tree
  | .object fields =>
    (role.replacement? bindings (.object fields)).getD
      (.object (substituteParts role (.object fields) fields))
  | .list elements => .list (substituteList role 0 elements)
  | leaf => leaf
  termination_by structural t => t

/-- The elements of a list in a role from a position on. -/
def substituteList (role : Role) (position : Nat) : List Tree → List Tree
  | [] => []
  | t :: rest => substitute (role.ofElement position) t :: substituteList role (position + 1) rest
  termination_by structural elements => elements

/-- The parts of a node in a role. -/
def substituteParts (role : Role) (node : Tree) : List (String × Tree) → List (String × Tree)
  | [] => []
  | (part, t) :: rest =>
    (part, substitute (role.ofPart names node part) t) :: substituteParts role node rest
  termination_by structural fields => fields

end

/-! ### The recursion in closed form -/

theorem substituteList_eq_mapIdx (role : Role) (position : Nat) (elements : List Tree) :
    substituteList names bindings role position elements =
      elements.mapIdx fun i t => substitute names bindings (role.ofElement (position + i)) t := by
  induction elements generalizing position with
  | nil => rw [substituteList, List.mapIdx_nil]
  | cons t rest ih =>
    rw [substituteList, List.mapIdx_cons, ih]
    simp only [Nat.add_zero, Nat.add_assoc, Nat.add_comm 1]

theorem substituteParts_eq_map (role : Role) (node : Tree) (fields : List (String × Tree)) :
    substituteParts names bindings role node fields =
      fields.map fun (part, t) => (part, substitute names bindings (role.ofPart names node part) t)
    := by
  induction fields with
  | nil => rw [substituteParts, List.map_nil]
  | cons pair rest ih => obtain ⟨part, t⟩ := pair; rw [substituteParts, List.map_cons, ih]

theorem substitute_list (role : Role) (elements : List Tree) :
    substitute names bindings role (.list elements) =
      .list (elements.mapIdx fun i t => substitute names bindings (role.ofElement i) t) := by
  rw [substitute, substituteList_eq_mapIdx]
  simp only [Nat.zero_add]

/-- A node with every part substituted in its role. -/
def substituteInside (role : Role) (t : Tree) : Tree :=
  t.mapParts fun part u => substitute names bindings (role.ofPart names t part) u

theorem substitute_object (role : Role) (fields : List (String × Tree)) :
    substitute names bindings role (.object fields) =
      (role.replacement? bindings (.object fields)).getD
        (substituteInside names bindings role (.object fields)) := by
  rw [substitute, substituteParts_eq_map]
  rfl

end

/-! ### From the inside out and from the outside in -/

namespace Role

variable (bindings : Bindings)

/-- What is still to be done to a rewritten tree in a role by the call that gives it the role. -/
def complete : Role → Tree → Tree
  | .plain, t => t
  | .chained, t => t
  | .arguments, t => rewriteArguments bindings t
  | .argument, t => updateField "expression" (rewriteObject bindings) t
  | .object, t => rewriteObject bindings t
  | .properties, t => t.mapElements (rewriteProperty bindings)
  | .property, t => rewriteProperty bindings t

variable (names : Call.FactoryNames)

theorem ofPart_eq_chained_iff (role : Role) (node : Tree) (part : String) :
    role.ofPart names node part = .chained ↔ Tree.isChainBase node.kind? part = true := by
  unfold ofPart
  split_ifs <;> simp_all

/-- What a call still does to a part of a node in a role, told by the name of the part. -/
def completePart (role : Role) (node : Tree) (part : String) (u : Tree) : Tree :=
  if part = "arguments" ∧ role.IsImageCall names node then rewriteArguments bindings u
  else if part = "expression" ∧ role = .argument then rewriteObject bindings u
  else if part = "properties" ∧ role = .object then u.mapElements (rewriteProperty bindings)
  else u

theorem complete_ofPart (role : Role) (node : Tree) (part : String) (u : Tree) :
    (role.ofPart names node part).complete bindings u =
      role.completePart bindings names node part u := by
  unfold ofPart completePart
  by_cases hbase : Tree.isChainBase node.kind? part = true
  · -- A call under an optional chain is in none of the fields that calls rewrite.
    have hpart : part = "base" := by
      simp only [Tree.isChainBase, Bool.and_eq_true, beq_iff_eq] at hbase
      exact hbase.2
    rw [if_pos hbase]
    simp [hpart, complete]
  · rw [if_neg hbase]
    split_ifs <;> rfl

end Role

variable (names : Call.FactoryNames) (bindings : Bindings)

/-- A rewritten node is told by the node with rewritten parts and by the role of the node. -/
theorem tree_rewriteFrom_object (role : Role) (fields : List (String × Tree)) :
    (rewriteFrom names bindings (decide (role = .chained)) (.object fields)).tree =
      (descend names bindings (.object fields)).mapParts fun part u =>
        if part = "arguments" ∧ role.IsImageCall names (.object fields) then
          rewriteArguments bindings u
        else u := by
  have hkind := isKind_descend names bindings (.object fields) "CallExpression"
  have himage := isImage_descend names bindings names (.object fields)
  rw [rewriteFrom_object, finish]
  dsimp only
  rw [hkind, himage]
  by_cases h : role.IsImageCall names (.object fields)
  · obtain ⟨hrole, hcall, hdraws⟩ := id h
    simp [h, hrole, hcall, hdraws, rewriteCall_eq_mapParts]
  · have hnot : ¬(!decide (role = .chained) && (Tree.object fields).isKind "CallExpression" &&
        Call.isImage names (.object fields)) = true := by
      intro hall
      simp only [Bool.and_eq_true, Bool.not_eq_true', decide_eq_false_iff_not] at hall
      exact h ⟨hall.1.1, hall.1.2, hall.2⟩
    rw [if_neg hnot]
    simp [h, Tree.mapParts_id]

/-- What a call does to a node that is not one of its properties, it does to the parts. -/
theorem complete_eq_mapParts {role : Role} (hrole : role ≠ .property) {t : Tree}
    (ht : ∃ fields, t = .object fields) :
    role.complete bindings t = t.mapParts fun part u =>
      if part = "expression" ∧ role = .argument then rewriteObject bindings u
      else if part = "properties" ∧ role = .object then u.mapElements (rewriteProperty bindings)
      else u := by
  obtain ⟨fields, rfl⟩ := ht
  cases role with
  | property => exact absurd rfl hrole
  | argument => simp [Role.complete, updateField_eq_mapParts]
  | object => simp [Role.complete, rewriteObject, updateField_eq_mapParts]
  | _ => simp [Role.complete, rewriteArguments, Tree.mapElements, Tree.mapParts_id]

theorem mapIdx_eq_map {α β : Type} {f : Nat → α → β} {g : α → β} {l : List α}
    (h : ∀ i, ∀ a ∈ l, f i a = g a) : l.mapIdx f = l.map g := by
  refine List.ext_getElem (by simp) fun i hi _ => ?_
  rw [List.getElem_mapIdx, List.getElem_map]
  exact h i _ (List.getElem_mem _)

/-- The elements of a list come out as their roles say, if this holds of each of them. -/
theorem substitute_list_eq_complete {elements : List Tree}
    (ih : ∀ t ∈ elements, ∀ role : Role, substitute names bindings role t =
      role.complete bindings (rewriteFrom names bindings (decide (role = .chained)) t).tree)
    (role : Role) :
    substitute names bindings role (.list elements) = role.complete bindings
      (rewriteFrom names bindings (decide (role = .chained)) (.list elements)).tree := by
  have hplain : ∀ t ∈ elements, substitute names bindings .plain t =
      (rewriteFrom names bindings false t).tree := fun t ht => ih t ht .plain
  rw [substitute_list, tree_rewriteFrom_list]
  cases role with
  | arguments =>
    rcases elements with _ | ⟨component, _ | ⟨properties, rest⟩⟩
    · rfl
    · simp [Role.ofElement, Role.complete, rewriteArguments, hplain]
    · have hproperties := ih properties (by simp) .argument
      have hrest : (rest.mapIdx fun _ t => substitute names bindings .plain t) =
          rest.map fun t => (rewriteFrom names bindings false t).tree :=
        mapIdx_eq_map fun _ t ht => hplain t (by simp [ht])
      simp only [Role.complete] at hproperties
      simp [Role.ofElement, Role.complete, rewriteArguments, hplain, hproperties, hrest]
  | properties =>
    rw [Role.complete, Tree.mapElements, List.map_map]
    exact congrArg Tree.list (mapIdx_eq_map fun _ t ht => ih t ht .property)
  | _ => exact congrArg Tree.list (mapIdx_eq_map fun _ t ht => hplain t ht)

/-- The parts of a node come out as their roles say, if this holds of each of them. -/
theorem substituteInside_eq_completePart {fields : List (String × Tree)}
    (ih : ∀ part t, (part, t) ∈ fields → ∀ role : Role, substitute names bindings role t =
      role.complete bindings (rewriteFrom names bindings (decide (role = .chained)) t).tree)
    (role : Role) :
    substituteInside names bindings role (.object fields) =
      (descend names bindings (.object fields)).mapParts fun part u =>
        role.completePart bindings names (.object fields) part u := by
  rw [descend, Tree.mapParts_mapParts]
  refine Tree.mapParts_object_congr fun part u hmem => ?_
  rw [ih part u hmem, Role.complete_ofPart]
  congr 3
  rw [Bool.eq_iff_iff, decide_eq_true_iff, Role.ofPart_eq_chained_iff]

theorem substitute_eq_complete (t : Tree) : ∀ role : Role,
    substitute names bindings role t =
      role.complete bindings (rewriteFrom names bindings (decide (role = .chained)) t).tree := by
  induction t using Tree.induction with
  | list elements ih => exact substitute_list_eq_complete names bindings ih
  | object fields ih =>
    intro role
    rw [substitute_object, substituteInside_eq_completePart names bindings ih]
    by_cases hrole : role = .property
    · subst hrole
      have hsame := sourceText?_rewriteFrom names bindings (decide (Role.property = .chained))
        (.object fields)
      rw [Role.complete, rewriteProperty, hsame, Role.replacement?, if_pos rfl]
      cases (Call.sourceText? (.object fields)).bind bindings with
      | some name => rfl
      | none =>
        dsimp only [Option.map_none, Option.getD_none]
        rw [tree_rewriteFrom_object]
        simp [Role.completePart]
    · rw [Role.replacement?, if_neg hrole, Option.getD_none, tree_rewriteFrom_object,
        complete_eq_mapParts bindings hrole, Tree.mapParts_mapParts]
      · refine Tree.mapParts_object_congr fun part u _ => ?_
        unfold Role.completePart
        by_cases hpart : part = "arguments"
        · subst hpart
          simp
        · simp [hpart]
      · exact ⟨_, rfl⟩
  | _ => intro role; cases role <;> rfl

/-- A rewritten program is its substitution. -/
theorem tree_rewrite_eq_substitute (program : Tree) :
    (rewrite names bindings program).tree = substitute names bindings .plain program :=
  (substitute_eq_complete names bindings program .plain).symm

end ImageImports.Rewrite
