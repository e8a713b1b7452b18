import ImageImports.Proofs.Rewrite.Substitution
import ImageImports.Proofs.Tree.Position

/-!
# Roles of positions

The role of a tree is told by the way to it from the top of the program. A tree is a property of
an image call if five steps lead to it from the call: to the arguments, the second of them, its
expression, the list of properties and one of these. A substituted program is known at every
position above which nothing was replaced.

## Main definitions

* `Rewrite.Role.reach`: the role and the tree at a position.
* `Rewrite.Role.Leads`: the steps that lead from one role to another.

## Main results

* `Rewrite.Role.visits_reach`: a tree at a position is visited as its role says.
* `Rewrite.at?_substitute`: what stands at a position of a substituted tree.
-/

namespace ImageImports.Rewrite

open ImageImports.Tree (Step Position)

variable (names : Call.FactoryNames) (bindings : Bindings)

namespace Role

/-- The role of the tree to which a step leads. -/
def ofStep (role : Role) (t : Tree) : Step → Role
  | .part name => role.ofPart names t name
  | .element index => role.ofElement index

/-- The role and the tree at a position. -/
def reach : Role → Tree → Position → Option (Role × Tree)
  | role, t, [] => some (role, t)
  | role, t, step :: rest =>
    (t.child? step).bind fun u => reach (role.ofStep names t step) u rest

/-! ### Reaching positions -/

section

variable {names} {role found : Role} {t u : Tree}

theorem reach_append (place rest : Position) :
    reach names role t (place ++ rest) =
      (reach names role t place).bind fun (found, u) => reach names found u rest := by
  induction place generalizing role t with
  | nil => rfl
  | cons step place ih =>
    rw [List.cons_append, reach, reach]
    cases t.child? step with
    | none => rfl
    | some u => exact ih

variable (names role t) in
theorem map_snd_reach (place : Position) :
    (reach names role t place).map Prod.snd = t.at? place := by
  induction place generalizing role t with
  | nil => rfl
  | cons step place ih =>
    rw [reach, Tree.at?_cons]
    cases t.child? step with
    | none => rfl
    | some u => exact ih _ u

theorem at?_of_reach {place : Position} (h : reach names role t place = some (found, u)) :
    t.at? place = some u := by
  rw [← map_snd_reach names role, h, Option.map_some]

variable (names role) in
theorem exists_reach {place : Position} (h : t.at? place = some u) :
    ∃ found, reach names role t place = some (found, u) := by
  rw [← map_snd_reach names role] at h
  obtain ⟨⟨found, _⟩, hreach, rfl⟩ := Option.map_eq_some_iff.mp h
  exact ⟨found, hreach⟩

/-- The last step to a position. -/
theorem reach_concat {place : Position} {step : Step}
    (h : reach names role t (place ++ [step]) = some (found, u)) :
    ∃ last parent, reach names role t place = some (last, parent) ∧
      parent.child? step = some u ∧ last.ofStep names parent step = found := by
  rw [reach_append] at h
  obtain ⟨⟨last, parent⟩, hlast, h⟩ := Option.bind_eq_some_iff.mp h
  obtain ⟨child, hchild, h⟩ := Option.bind_eq_some_iff.mp h
  rw [reach, Option.some.injEq, Prod.mk.injEq] at h
  obtain ⟨rfl, rfl⟩ := h
  exact ⟨last, parent, hlast, hchild, rfl⟩

/-! ### Steps that lead to a role -/

variable (names) in
/-- The steps that lead from a tree in a role to another role. Every step may lead to a tree that
is nothing to any call. -/
inductive Leads (role : Role) (t : Tree) : Step → Role → Prop
  | plain (step : Step) : Leads role t step .plain
  | chained (step : Step) (h : t.isChainStep step = true) : Leads role t step .chained
  | arguments (h : role.IsImageCall names t) : Leads role t (.part "arguments") .arguments
  | argument (h : role = .arguments) : Leads role t (.element 1) .argument
  | object (h : role = .argument) : Leads role t (.part "expression") .object
  | properties (h : role = .object) : Leads role t (.part "properties") .properties
  | property (index : Nat) (h : role = .properties) : Leads role t (.element index) .property

variable (names role t) in
theorem leads_ofStep (step : Step) : Leads names role t step (role.ofStep names t step) := by
  cases step with
  | part name =>
    rw [ofStep, ofPart]
    split_ifs with hbase harguments hexpression hproperties
    · exact .chained _ hbase
    · obtain ⟨rfl, hcall⟩ := harguments
      exact .arguments hcall
    · obtain ⟨rfl, hrole⟩ := hexpression
      exact .object hrole
    · obtain ⟨rfl, hrole⟩ := hproperties
      exact .properties hrole
    · exact .plain _
  | element index =>
    rw [ofStep]
    unfold ofElement
    split
    · exact .argument rfl
    · exact .property index rfl
    · exact .plain _

/-- A step gives the role to which it leads, if that is not plain. -/
theorem ofStep_eq_of_leads {step : Step} (h : Leads names role t step found)
    (hfound : found ≠ .plain) : role.ofStep names t step = found := by
  cases h with
  | plain => exact absurd rfl hfound
  | chained _ hchain =>
    cases step with
    | part name => exact (ofPart_eq_chained_iff names role t name).mpr hchain
    | element index => simp [Tree.isChainStep] at hchain
  | arguments hcall => simp [ofStep, ofPart, hcall, isChainBase_eq_false]
  | argument hrole => simp [ofStep, ofElement, hrole]
  | object hrole => simp [ofStep, ofPart, hrole, isChainBase_eq_false]
  | properties hrole => simp [ofStep, ofPart, hrole, isChainBase_eq_false]
  | property index hrole => simp [ofStep, ofElement, hrole]

theorem ofStep_eq_chained_iff {step : Step} :
    role.ofStep names t step = .chained ↔ t.isChainStep step = true := by
  refine ⟨fun h => ?_, fun h => ofStep_eq_of_leads (.chained step h) (by simp)⟩
  have hleads := leads_ofStep names role t step
  rw [h] at hleads
  cases hleads with
  | chained _ hchain => exact hchain

/-- A tree at a position is visited as its role says. -/
theorem visits_reach {place : Position} (h : reach names role t place = some (found, u)) :
    u.visitsFrom (decide (found = .chained)) ⊆ t.visitsFrom (decide (role = .chained)) := by
  induction place generalizing role t with
  | nil =>
    rw [reach, Option.some.injEq, Prod.mk.injEq] at h
    obtain ⟨rfl, rfl⟩ := h
    exact List.Subset.refl _
  | cons step rest ih =>
    obtain ⟨child, hchild, hrest⟩ := Option.bind_eq_some_iff.mp h
    have hstep : decide (role.ofStep names t step = .chained) = t.isChainStep step := by
      rw [Bool.eq_iff_iff, decide_eq_true_iff, ofStep_eq_chained_iff]
    have hsub := ih hrest
    rw [hstep] at hsub
    exact List.Subset.trans hsub (Tree.visitsFrom_subset hchild _)

end

/-! ### Positions of a substituted tree -/

section

variable {names bindings} {role found : Role} {t u : Tree}

/-- What takes the place of a tree is the property of a name to which its text is bound. -/
theorem replacement?_eq_some_iff {other : Tree} :
    role.replacement? bindings t = some other ↔ role = .property ∧ ∃ reference name,
      Call.sourceText? t = some reference ∧ bindings reference = some name ∧
        other = boundProperty name := by
  rw [replacement?]
  split_ifs with hrole
  · simp only [Option.map_eq_some_iff, Option.bind_eq_some_iff, hrole, true_and]
    constructor
    · rintro ⟨name, ⟨reference, htext, hname⟩, rfl⟩
      exact ⟨reference, name, htext, hname, rfl⟩
    · rintro ⟨reference, name, htext, hname, rfl⟩
      exact ⟨name, ⟨reference, htext, hname⟩, rfl⟩
  · simp [hrole]

end

end Role

section

variable {names bindings} {role found : Role} {t u : Tree}

theorem alike_substitute (h : role.replacement? bindings t = none) :
    t.Alike (substitute names bindings role t) := by
  cases t with
  | object fields =>
    rw [substitute_object, h, Option.getD_none]
    exact Tree.alike_mapParts _
  | list elements =>
    rw [substitute_list]
    exact ⟨_, rfl, List.length_mapIdx⟩
  | _ => rfl

theorem child?_substitute (h : role.replacement? bindings t = none) (step : Step) :
    (substitute names bindings role t).child? step =
      (t.child? step).map (substitute names bindings (role.ofStep names t step)) := by
  cases t with
  | object fields =>
    rw [substitute_object, h, Option.getD_none]
    cases step with
    | part name => exact Tree.lookup_fields_mapParts (.object fields) name
    | element index => rfl
  | list elements =>
    rw [substitute_list]
    cases step with
    | part name => rfl
    | element index => exact List.getElem?_mapIdx
  | _ => cases step <;> rfl

/-- Where nothing was replaced on the way, the substitution of a tree stands at its position. -/
theorem at?_substitute {place : Position}
    (h : ∀ above last parent, above <+: place → above ≠ place →
      Role.reach names role t above = some (last, parent) →
        last.replacement? bindings parent = none) :
    (substitute names bindings role t).at? place =
      (Role.reach names role t place).map fun (found, u) => substitute names bindings found u := by
  induction place generalizing role t with
  | nil => rfl
  | cons step rest ih =>
    have htop := h [] role t (List.nil_prefix) (by simp) rfl
    rw [Tree.at?_cons, child?_substitute htop, Role.reach]
    cases hchild : t.child? step with
    | none => rfl
    | some u =>
      refine ih fun above last parent habove hne hreach => ?_
      refine h (step :: above) last parent (by simpa using habove) (by simpa using hne) ?_
      rw [Role.reach, hchild]
      exact hreach

end

end ImageImports.Rewrite
