import ImageImports.Proofs.Rewrite.Roles

/-!
# The properties that are replaced

An image call gives texts as `src` in the object that is its second argument. The positions of
these properties are told on the program as it was, by the way from the call to the property. A
rewritten program has a new property at just these positions, and is like the program as it was at
every position that is not in one of them.

## Main definitions

* `Call.propertyWay`: the way from a call to a property of its second argument.
* `Call.IsImageCallAt`: an image call stands at a position.
* `Call.IsSource`: a property at a position gives a text as `src` of an image.
* `Rewrite.Replaces`: a program is another one with these properties replaced, and nothing else.

## Main results

* `Rewrite.isSource_iff_reach`: the positions of these properties by their role.
* `Rewrite.mem_allImageTexts_of_isSource`: a plan is made of their texts.
* `Rewrite.replaces_rewrite`: rewriting replaces the properties and nothing else.
-/

namespace ImageImports

open ImageImports.Tree (Step Position)

namespace Tree

theorem listField_of_child? {t : Tree} {name : String} {elements : List Tree}
    (h : t.child? (.part name) = some (.list elements)) : t.listField name = elements := by
  have hfield : t.field? name = some (.list elements) := by
    rw [field?, show t.fields.lookup name = some (.list elements) from h]
  rw [listField, hfield]

theorem eq_list_of_child? {t u : Tree} {index : Nat} (h : t.child? (.element index) = some u) :
    ∃ elements, t = .list elements ∧ elements[index]? = some u := by
  cases t with
  | list elements => exact ⟨elements, rfl, h⟩
  | _ => simp [child?, elements] at h

theorem exists_fields_of_isKind {t : Tree} {kind : String} (h : t.isKind kind = true) :
    ∃ fields, t = .object fields := by
  cases t with
  | object fields => exact ⟨fields, rfl⟩
  | _ => simp [isKind, kind?, textField?, field?, fields] at h

end Tree

namespace Call

variable (names : FactoryNames) (program : Tree)

/-- The way from a call to a property of its second argument. -/
def propertyWay (index : Nat) : Position :=
  [.part "arguments", .element 1, .part "expression", .part "properties", .element index]

/-- The call of an optional chain stands at a position. -/
def IsChained (place : Position) : Prop :=
  ∃ above parent, place = above ++ [.part "base"] ∧ program.at? above = some parent ∧
    parent.isKind "OptionalChainingExpression" = true

/-- A call that draws an image, and is not the call of an optional chain, stands at a position. -/
structure IsImageCallAt (place : Position) (call : Tree) : Prop where
  found : program.at? place = some call
  kind : call.isKind "CallExpression" = true
  own : ¬IsChained program place
  draws : isImage names call = true

/-- A property of an image call stands at a position and gives a text as `src`. -/
def IsSource (place : Position) (reference : String) : Prop :=
  ∃ above call index property, place = above ++ propertyWay index ∧
    IsImageCallAt names program above call ∧ program.at? place = some property ∧
      sourceText? property = some reference

theorem IsSource.two_le_length {names : FactoryNames} {program : Tree} {place : Position}
    {reference : String} (h : IsSource names program place reference) : 2 ≤ place.length := by
  obtain ⟨above, call, index, property, rfl, -⟩ := h
  simp [propertyWay]

theorem properties?_of_at? {call property : Tree} {index : Nat} (hdraws : isImage names call = true)
    (h : call.at? (propertyWay index) = some property) :
    ∃ object, properties? call = some object ∧ property ∈ object.listField "properties" := by
  rw [isImage, Bool.and_eq_true] at hdraws
  obtain ⟨-, hdraws⟩ := hdraws
  split at hdraws
  next component argument rest harguments =>
    -- The second argument holds an object, so the way leads through that object.
    obtain ⟨-, hargument⟩ := Bool.and_eq_true_iff.mp hdraws
    obtain ⟨object, hobject, hkind⟩ := (Option.any_eq_true _ _).mp hargument
    have hexpression : expression? argument = some object := by
      rw [plainExpression?] at hobject
      split at hobject
      · cases hobject
      · exact hobject
    have hsecond : call.at? [.part "arguments", .element 1] = some argument :=
      Tree.at?_of_listField (by
        rw [show call.listField "arguments" = component :: argument :: rest from harguments]
        rfl)
    have hway : propertyWay index = [.part "arguments", .element 1] ++
        [.part "expression", .part "properties", .element index] := rfl
    rw [hway, Tree.at?_append, hsecond, Option.bind_some, Tree.at?_cons,
      Tree.child?_of_field? hexpression, Option.bind_some, Tree.at?_cons] at h
    obtain ⟨properties, hproperties, h⟩ := Option.bind_eq_some_iff.mp h
    obtain ⟨_, hproperty, h⟩ := Option.bind_eq_some_iff.mp h
    obtain rfl := Option.some.inj h
    obtain ⟨elements, rfl, helement⟩ := Tree.eq_list_of_child? hproperty
    refine ⟨object, ?_, ?_⟩
    · rw [Call.properties?, harguments]
      dsimp only
      rw [hexpression, Option.filter_some, if_pos hkind]
    · rw [Tree.listField_of_child? hproperties]
      exact List.mem_of_getElem? helement
  next => cases hdraws

end Call

namespace Rewrite

variable {names : Call.FactoryNames} {bindings : Bindings} {program : Tree}

/-! ### Sources by their roles -/

/-- The role of a position other than the top is given by the last step. -/
theorem exists_leads {place : Position} {found : Role} {u : Tree}
    (h : Role.reach names .plain program place = some (found, u)) (hfound : found ≠ .plain) :
    ∃ above step last parent, place = above ++ [step] ∧
      Role.reach names .plain program above = some (last, parent) ∧
        parent.child? step = some u ∧ Role.Leads names last parent step found := by
  rcases List.eq_nil_or_concat place with rfl | ⟨above, step, rfl⟩
  · rw [Role.reach, Option.some.injEq, Prod.mk.injEq] at h
    exact absurd h.1.symm hfound
  · rw [List.concat_eq_append] at h ⊢
    obtain ⟨last, parent, hlast, hchild, rfl⟩ := Role.reach_concat h
    exact ⟨above, step, last, parent, rfl, hlast, hchild, Role.leads_ofStep names last parent step⟩

theorem isChained_iff {place : Position} {role : Role} {u : Tree}
    (h : Role.reach names .plain program place = some (role, u)) :
    Call.IsChained program place ↔ role = .chained := by
  constructor
  · rintro ⟨above, parent, rfl, hparent, hkind⟩
    obtain ⟨last, _, hlast, -, rfl⟩ := Role.reach_concat h
    obtain rfl := Option.some.inj ((Role.at?_of_reach hlast).symm.trans hparent)
    refine Role.ofStep_eq_chained_iff.mpr ?_
    simpa [Tree.isChainStep, Tree.isChainBase, Tree.isKind] using hkind
  · rintro rfl
    obtain ⟨above, step, last, parent, rfl, hlast, -, hleads⟩ := exists_leads h (by simp)
    cases hleads with
    | chained _ hchain =>
      cases step with
      | element index => simp [Tree.isChainStep] at hchain
      | part name =>
        simp only [Tree.isChainStep, Tree.isChainBase, Bool.and_eq_true, beq_iff_eq] at hchain
        obtain ⟨hkind, rfl⟩ := hchain
        exact ⟨above, parent, rfl, Role.at?_of_reach hlast, by simpa [Tree.isKind] using hkind⟩

theorem isImageCallAt_iff {place : Position} {role : Role} {call : Tree}
    (h : Role.reach names .plain program place = some (role, call)) :
    Call.IsImageCallAt names program place call ↔ role.IsImageCall names call := by
  have hchained := isChained_iff h
  constructor
  · intro hcall
    exact ⟨fun hrole => hcall.own (hchained.mpr hrole), hcall.kind, hcall.draws⟩
  · rintro ⟨hrole, hkind, hdraws⟩
    exact ⟨Role.at?_of_reach h, hkind, fun hc => hrole (hchained.mp hc), hdraws⟩

/-- The way from an image call leads to its properties. -/
theorem reach_propertyWay {role : Role} {call property : Tree} {index : Nat}
    (hcall : role.IsImageCall names call)
    (h : call.at? (Call.propertyWay index) = some property) :
    Role.reach names role call (Call.propertyWay index) = some (.property, property) := by
  obtain ⟨arguments, harguments, h⟩ := Option.bind_eq_some_iff.mp h
  obtain ⟨argument, hargument, h⟩ := Option.bind_eq_some_iff.mp h
  obtain ⟨object, hobject, h⟩ := Option.bind_eq_some_iff.mp h
  obtain ⟨properties, hproperties, h⟩ := Option.bind_eq_some_iff.mp h
  obtain ⟨_, hproperty, h⟩ := Option.bind_eq_some_iff.mp h
  obtain rfl := Option.some.inj h
  rw [Call.propertyWay, Role.reach, harguments, Option.bind_some,
    Role.ofStep_eq_of_leads (.arguments hcall) (by simp), Role.reach, hargument, Option.bind_some,
    Role.ofStep_eq_of_leads (.argument rfl) (by simp), Role.reach, hobject, Option.bind_some,
    Role.ofStep_eq_of_leads (.object rfl) (by simp), Role.reach, hproperties, Option.bind_some,
    Role.ofStep_eq_of_leads (.properties rfl) (by simp), Role.reach, hproperty, Option.bind_some,
    Role.ofStep_eq_of_leads (.property index rfl) (by simp), Role.reach]

/-- What has the role of a property is the property of an image call. -/
theorem exists_propertyWay {place : Position} {property : Tree}
    (h : Role.reach names .plain program place = some (.property, property)) :
    ∃ above call index, place = above ++ Call.propertyWay index ∧
      Call.IsImageCallAt names program above call := by
  obtain ⟨_, _, _, _, rfl, hproperties, -, hleads⟩ := exists_leads h (by simp)
  cases hleads with | property index hrole => ?_
  subst hrole
  obtain ⟨_, _, _, _, rfl, hobject, -, hleads⟩ := exists_leads hproperties (by simp)
  cases hleads with | properties hrole => ?_
  subst hrole
  obtain ⟨_, _, _, _, rfl, hargument, -, hleads⟩ := exists_leads hobject (by simp)
  cases hleads with | object hrole => ?_
  subst hrole
  obtain ⟨_, _, _, _, rfl, harguments, -, hleads⟩ := exists_leads hargument (by simp)
  cases hleads with | argument hrole => ?_
  subst hrole
  obtain ⟨above, _, role, call, rfl, hreach, -, hleads⟩ := exists_leads harguments (by simp)
  cases hleads with | arguments hcall => ?_
  refine ⟨above, call, index, ?_, (isImageCallAt_iff hreach).mpr hcall⟩
  simp only [Call.propertyWay, List.append_assoc, List.cons_append, List.nil_append]

/-- The properties that give a text as `src` are told by their role. -/
theorem isSource_iff_reach {place : Position} {reference : String} :
    Call.IsSource names program place reference ↔ ∃ property,
      Role.reach names .plain program place = some (.property, property) ∧
        Call.sourceText? property = some reference := by
  constructor
  · rintro ⟨above, call, index, property, rfl, hcall, hproperty, htext⟩
    obtain ⟨role, hrole⟩ := Role.exists_reach names .plain hcall.found
    refine ⟨property, ?_, htext⟩
    rw [Tree.at?_append, hcall.found, Option.bind_some] at hproperty
    rw [Role.reach_append, hrole, Option.bind_some]
    exact reach_propertyWay ((isImageCallAt_iff hrole).mp hcall) hproperty
  · rintro ⟨property, hreach, htext⟩
    obtain ⟨above, call, index, rfl, hcall⟩ := exists_propertyWay hreach
    exact ⟨above, call, index, property, rfl, hcall, Role.at?_of_reach hreach, htext⟩

/-- The text of every such property is a text of the program. -/
theorem mem_allImageTexts_of_isSource {place : Position} {reference : String}
    (h : Call.IsSource names program place reference) :
    reference ∈ Call.allImageTexts names program := by
  obtain ⟨above, call, index, property, rfl, hcall, hproperty, htext⟩ := h
  obtain ⟨role, hrole⟩ := Role.exists_reach names .plain hcall.found
  obtain ⟨fields, rfl⟩ := Tree.exists_fields_of_isKind hcall.kind
  -- The call is visited as a call of its own.
  have hvisit : (⟨false, .object fields⟩ : Visit) ∈ program.visits := by
    have hchained : decide (role = .chained) = false :=
      decide_eq_false ((isImageCallAt_iff hrole).mp hcall).1
    refine Role.visits_reach hrole ?_
    rw [hchained, Tree.visitsFrom]
    exact List.mem_cons_self
  rw [Tree.at?_append, hcall.found, Option.bind_some] at hproperty
  obtain ⟨object, hobject, hmem⟩ := Call.properties?_of_at? names hcall.draws hproperty
  rw [Call.allImageTexts_eq_flatMap_visits, List.mem_flatMap]
  refine ⟨_, hvisit, ?_⟩
  have hown : Tree.isCallVisit ⟨false, .object fields⟩ = true := hcall.kind
  rw [Call.textsOfVisit, if_pos hown, Call.imageTexts, if_pos hcall.draws, hobject]
  exact List.mem_filterMap.mpr ⟨property, hmem, htext⟩

/-! ### What is replaced, and what is not -/

/-- Every property that gives a text as `src` of an image is replaced by the property of the name
to which its text is bound. At every position that is not in such a property, the trees have the
same top: they are the same leaf, lists of one length, or nodes with the same fields in order. -/
structure Replaces (names : Call.FactoryNames) (bindings : Bindings) (program rewritten : Tree) :
    Prop where
  source : ∀ place reference, Call.IsSource names program place reference →
    ∃ name, bindings reference = some name ∧ rewritten.at? place = some (boundProperty name)
  frame : ∀ place, (∀ above reference, above <+: place →
    ¬Call.IsSource names program above reference) →
      Option.Rel Tree.Alike (program.at? place) (rewritten.at? place)

/-- A plain text holds no call: no property that gives a text as `src` has calls in it. -/
def PlainTexts (program : Tree) : Prop :=
  ∀ v ∈ program.visits, (Call.sourceText? v.node).isSome = true → v.node.calls.isEmpty = true

/-- Nothing in a tree without calls is the property of an image call. -/
theorem ne_property_of_calls {role : Role} {t : Tree}
    (hrole : role = .plain ∨ role = .chained ∨ role = .property)
    (hcalls : ∀ v ∈ t.visitsFrom (decide (role = .chained)), Tree.isCallVisit v = false)
    {step : Step} {rest : Position} {found : Role} {u : Tree}
    (h : Role.reach names role t (step :: rest) = some (found, u)) : found ≠ .property := by
  induction rest generalizing role t step with
  | nil =>
    obtain ⟨child, -, hchild⟩ := Option.bind_eq_some_iff.mp h
    rw [Role.reach, Option.some.injEq, Prod.mk.injEq] at hchild
    obtain ⟨rfl, -⟩ := hchild
    intro hproperty
    have hleads := Role.leads_ofStep names role t step
    rw [hproperty] at hleads
    cases hleads with
    | property index hproperties => simp [hproperties] at hrole
  | cons next rest ih =>
    obtain ⟨child, hchild, hrest⟩ := Option.bind_eq_some_iff.mp h
    have hsub : child.visitsFrom (decide (role.ofStep names t step = .chained)) ⊆
        t.visitsFrom (decide (role = .chained)) :=
      Role.visits_reach (show Role.reach names role t [step] = _ by rw [Role.reach, hchild]; rfl)
    refine ih ?_ (fun v hv => hcalls v (hsub hv)) hrest
    have hleads := Role.leads_ofStep names role t step
    generalize role.ofStep names t step = other at hleads
    cases hleads with
    | plain => exact Or.inl rfl
    | chained => exact Or.inr (Or.inl rfl)
    | arguments hcall =>
      -- The tree would be a call of its own, and it is visited as one.
      obtain ⟨hne, hkind, -⟩ := hcall
      obtain ⟨fields, rfl⟩ := Tree.exists_fields_of_isKind hkind
      have hnot := hcalls ⟨false, .object fields⟩ (by
        rw [decide_eq_false hne, Tree.visitsFrom]
        exact List.mem_cons_self)
      simp [Tree.isCallVisit, hkind] at hnot
    | argument hother => simp [hother] at hrole
    | object hother => simp [hother] at hrole
    | properties hother => simp [hother] at hrole
    | property index hother => simp [hother] at hrole

/-- Where plain texts hold no calls, no such property is inside of another one. -/
theorem eq_of_isSource_of_above (hplain : PlainTexts program) {above place : Position}
    {text reference : String} (habove : Call.IsSource names program above text)
    (hplace : Call.IsSource names program place reference) (hway : above <+: place) :
    above = place := by
  obtain ⟨property, hreach, htext⟩ := isSource_iff_reach.mp habove
  obtain ⟨inner, hinner, -⟩ := isSource_iff_reach.mp hplace
  obtain ⟨rest, rfl⟩ := hway
  cases rest with
  | nil => rw [List.append_nil]
  | cons step rest =>
    rw [Role.reach_append, hreach, Option.bind_some] at hinner
    have hsub := Role.visits_reach hreach
    obtain ⟨fields, rfl⟩ : ∃ fields, property = .object fields := by
      cases property with
      | object fields => exact ⟨fields, rfl⟩
      | _ => simp [Call.sourceText?, Tree.field?, Tree.fields] at htext
    have hvisit : (⟨false, .object fields⟩ : Visit) ∈ program.visits := by
      refine hsub ?_
      rw [decide_eq_false (by simp), Tree.visitsFrom]
      exact List.mem_cons_self
    have hcalls := hplain _ hvisit (by rw [htext]; rfl)
    refine absurd rfl (ne_property_of_calls (Or.inr (Or.inr rfl)) (fun v hv => ?_) hinner)
    simp only [Tree.calls, List.isEmpty_iff, List.map_eq_nil_iff, List.filter_eq_nil_iff] at hcalls
    simpa using hcalls v (by simpa [Tree.visits] using hv)

/-- Something is put for a tree only if it is such a property. -/
theorem replacement?_eq_none {place : Position} {role : Role} {u : Tree}
    (hreach : Role.reach names .plain program place = some (role, u))
    (hnot : ∀ reference, ¬Call.IsSource names program place reference) :
    role.replacement? bindings u = none := by
  by_contra hsome
  obtain ⟨other, hother⟩ := Option.ne_none_iff_exists'.mp hsome
  obtain ⟨rfl, reference, name, htext, -, -⟩ := Role.replacement?_eq_some_iff.mp hother
  exact hnot reference (isSource_iff_reach.mpr ⟨u, hreach, htext⟩)

/-- Rewriting with a name for every text of the program replaces the properties of image calls
that give a text as `src`, and nothing else. -/
theorem replaces_rewrite (hplain : PlainTexts program)
    (hbound : ∀ reference ∈ Call.allImageTexts names program, (bindings reference).isSome = true) :
    Replaces names bindings program (rewrite names bindings program).tree := by
  rw [tree_rewrite_eq_substitute]
  refine ⟨fun place reference hsource => ?_, fun place hnot => ?_⟩
  · obtain ⟨property, hreach, htext⟩ := isSource_iff_reach.mp hsource
    obtain ⟨name, hname⟩ :=
      Option.isSome_iff_exists.mp (hbound _ (mem_allImageTexts_of_isSource hsource))
    refine ⟨name, hname, ?_⟩
    rw [at?_substitute, hreach, Option.map_some]
    · have hreplacement : Role.property.replacement? bindings property =
          some (boundProperty name) :=
        Role.replacement?_eq_some_iff.mpr ⟨rfl, reference, name, htext, hname, rfl⟩
      cases property with
      | object fields =>
        dsimp only
        rw [substitute_object, hreplacement, Option.getD_some]
      | _ => simp [Call.sourceText?, Tree.field?, Tree.fields] at htext
    · intro above role parent hway hne hparent
      exact replacement?_eq_none hparent fun text habove =>
        hne (eq_of_isSource_of_above hplain habove hsource hway)
  · rw [at?_substitute]
    · rw [← Role.map_snd_reach names .plain]
      cases hreach : Role.reach names .plain program place with
      | none => exact .none
      | some found =>
        exact .some (alike_substitute (replacement?_eq_none hreach fun reference =>
          hnot place reference (List.prefix_refl place)))
    · intro above role parent hway _ hparent
      exact replacement?_eq_none hparent fun reference => hnot above reference hway

end Rewrite

end ImageImports
