import ImageImports.Proofs.Rewrite.Sites

/-!
# Programs with a name put for another

A name is put for another one wherever the program binds it or refers to it, and nowhere else: the
names of properties, texts and everything that is no name stay. Also a specifier that imports a name
of a module keeps the name that the module gives it. A renamed tree has the fields and elements of
the tree, so it is visited in the same order.

## Main definitions

* `Tree.renamed`: a name after a renaming.
* `Tree.relabel`: a node with its own name put for another.
* `Tree.rename`: a tree with a name put for another.
* `Tree.Throughout`: what holds of every node in a tree.

## Main results

* `Tree.field?_renameFrom`, `Tree.textField?_renameFrom`, `Tree.listField_renameFrom`: the fields of
  a renamed node.
* `Tree.boundName?_renameFrom`: the name of a renamed node.
* `Tree.flatMap_visits_renameFrom`: what is read off the visits of a renamed tree.
-/

namespace ImageImports.Tree

/-! ### What holds of every node -/

/-- Something holds of every node in a tree. -/
def Throughout (P : Tree → Prop) (t : Tree) : Prop := ∀ node ∈ t.visits.map Visit.node, P node

instance (P : Tree → Prop) [DecidablePred P] (t : Tree) : Decidable (t.Throughout P) :=
  inferInstanceAs (Decidable (∀ node ∈ t.visits.map Visit.node, P node))

theorem map_node_visitsFrom (t : Tree) (chained : Bool) :
    (t.visitsFrom chained).map Visit.node = t.visits.map Visit.node := by
  cases t <;> rfl

namespace Throughout

variable {P : Tree → Prop} {t u : Tree}

theorem of_subset (h : t.Throughout P) {chained other : Bool}
    (hsub : u.visitsFrom chained ⊆ t.visitsFrom other) : u.Throughout P := by
  rw [Throughout, ← map_node_visitsFrom _ chained]
  rw [Throughout, ← map_node_visitsFrom _ other] at h
  exact fun node hnode => h node (List.map_subset _ hsub hnode)

theorem node (h : t.Throughout P) {v : Visit} (hv : v ∈ t.visits) : v.node.Throughout P :=
  h.of_subset (visitsFrom_subset_of_mem t hv)

theorem field (h : t.Throughout P) {name : String} (hfield : t.field? name = some u) :
    u.Throughout P :=
  h.of_subset (visitsFrom_subset (child?_of_field? hfield) false)

theorem element (h : t.Throughout P) {name : String} (hmem : u ∈ t.listField name) :
    u.Throughout P := by
  rw [listField] at hmem
  split at hmem
  next elements hfield =>
    obtain ⟨index, hindex⟩ := List.getElem?_of_mem hmem
    have hchild : child? (.list elements) (.element index) = some u := hindex
    exact (h.field hfield).of_subset (visitsFrom_subset hchild false)
  next => cases hmem

theorem self (h : t.Throughout P) {kind : String} (hkind : t.isKind kind = true) : P t := by
  obtain ⟨fields, rfl⟩ := exists_fields_of_isKind hkind
  refine h _ ?_
  rw [visits, visitsFrom]
  exact List.mem_cons_self

end Throughout

/-! ### Renamed names -/

/-- A name after a renaming. -/
def renamed (old new name : String) : String := if name = old then new else name

theorem renamed_of_ne {old name : String} (h : name ≠ old) (new : String) :
    renamed old new name = name := if_neg h

/-- Names that are not the new one are told apart after a renaming as before. -/
theorem renamed_inj {old new name other : String} (hname : name ≠ new) (hother : other ≠ new) :
    renamed old new name = renamed old new other ↔ name = other := by
  refine ⟨fun h => ?_, congrArg _⟩
  unfold renamed at h
  split_ifs at h with hold hold'
  · rw [hold, hold']
  · exact absurd h.symm hother
  · exact absurd h hname
  · exact h

/-! ### Renamed trees -/

/-- A text put for another one. What is no text stays as it is. -/
def putText (new : String) : Tree → Tree
  | .text _ => .text new
  | t => t

/-- A node with its own name put for another, if it is a name that the program binds or refers
to. -/
def relabel (old new : String) (t : Tree) : Tree :=
  if t.boundName? = some old then Rewrite.updateField "value" (putText new) t else t

/-- The part of a specifier that is a name of the module, and none of the program. -/
def isImportedPart (kind : Option String) (part : String) : Bool :=
  kind == some "ImportSpecifier" && part == "imported"

mutual

/-- A tree with a name put for another. A node whose own name is kept has its parts renamed. -/
def renameFrom (old new : String) (kept : Bool) : Tree → Tree
  | .object fields =>
    let inner := .object (renameParts old new (kindOf fields) fields)
    if kept then inner else relabel old new inner
  | .list elements => .list (renameList old new elements)
  | leaf => leaf
  termination_by structural t => t

/-- Every tree of a list renamed. -/
def renameList (old new : String) : List Tree → List Tree
  | [] => []
  | t :: rest => renameFrom old new false t :: renameList old new rest
  termination_by structural ts => ts

/-- Every part of a node renamed. -/
def renameParts (old new : String) (kind : Option String) :
    List (String × Tree) → List (String × Tree)
  | [] => []
  | (part, t) :: rest =>
    (part, renameFrom old new (isImportedPart kind part) t) :: renameParts old new kind rest
  termination_by structural fields => fields

end

/-- A program with a name put for another wherever the program binds it or refers to it. -/
def rename (old new : String) (program : Tree) : Tree := renameFrom old new false program

variable {old new : String}

theorem renameList_eq_map (elements : List Tree) :
    renameList old new elements = elements.map (renameFrom old new false) := by
  induction elements with
  | nil => rw [renameList, List.map_nil]
  | cons t rest ih => rw [renameList, List.map_cons, ih]

theorem renameParts_eq_map (kind : Option String) (fields : List (String × Tree)) :
    renameParts old new kind fields = fields.map fun (part, t) =>
      (part, renameFrom old new (isImportedPart kind part) t) := by
  induction fields with
  | nil => rw [renameParts, List.map_nil]
  | cons pair rest ih => obtain ⟨part, t⟩ := pair; rw [renameParts, List.map_cons, ih]

theorem renameFrom_list (kept : Bool) (elements : List Tree) :
    renameFrom old new kept (.list elements) =
      .list (elements.map (renameFrom old new false)) := by
  rw [renameFrom, renameList_eq_map]

variable (old new) in
/-- A node with all its parts renamed, and its own name kept. -/
def renameInside (t : Tree) : Tree :=
  t.mapParts fun part u => renameFrom old new (isImportedPart t.kind? part) u

theorem renameFrom_object (kept : Bool) (fields : List (String × Tree)) :
    renameFrom old new kept (.object fields) =
      if kept then renameInside old new (.object fields)
      else relabel old new (renameInside old new (.object fields)) := by
  rw [renameFrom, renameParts_eq_map]
  rfl

/-! ### Every top is kept -/

theorem alike_relabel (t : Tree) : t.Alike (relabel old new t) := by
  unfold relabel
  split
  · exact Rewrite.alike_updateField _ _ t
  · exact Alike.refl t

theorem alike_renameFrom (kept : Bool) (t : Tree) : t.Alike (renameFrom old new kept t) := by
  cases t with
  | list elements =>
    rw [renameFrom_list]
    exact ⟨_, rfl, List.length_map _⟩
  | object fields =>
    have hinside : (Tree.object fields).Alike (renameInside old new (.object fields)) :=
      alike_mapParts _
    rw [renameFrom_object]
    split
    · exact hinside
    · exact hinside.trans (alike_relabel _)
  | _ => exact Alike.refl _

/-! ### Nodes with renamed parts -/

theorem field?_renameInside (t : Tree) (name : String) :
    (renameInside old new t).field? name =
      (t.field? name).map (renameFrom old new (isImportedPart t.kind? name)) :=
  field?_mapParts (fun _ u => alike_renameFrom _ u) t name

theorem textField?_renameInside (t : Tree) (name : String) :
    (renameInside old new t).textField? name = t.textField? name :=
  textField?_mapParts (fun _ u => alike_renameFrom _ u) t name

theorem boundName?_renameInside (t : Tree) :
    (renameInside old new t).boundName? = t.boundName? :=
  boundName?_mapParts (fun _ u => alike_renameFrom _ u) t

/-! ### Nodes with another name -/

theorem relabel_of_ne {t : Tree} (h : t.boundName? ≠ some old) : relabel old new t = t := if_neg h

theorem relabel_of_eq {t : Tree} (h : t.boundName? = some old) : relabel old new t =
    t.mapParts fun part u => if part == "value" then putText new u else u := by
  rw [relabel, if_pos h, Rewrite.updateField_eq_mapParts]

theorem textField?_of_boundName? {t : Tree} {name : String} (h : t.boundName? = some name) :
    t.textField? "value" = some name := by
  rw [boundName?] at h
  split at h
  · exact h
  · cases h

theorem lookup_relabel (t : Tree) {name : String} (hname : name ≠ "value") :
    (relabel old new t).fields.lookup name = t.fields.lookup name := by
  by_cases h : t.boundName? = some old
  · have hother : (name == "value") = false := by simpa using hname
    rw [relabel_of_eq h, lookup_fields_mapParts]
    simp [hother]
  · rw [relabel_of_ne h]

theorem field?_relabel (t : Tree) {name : String} (hname : name ≠ "value") :
    (relabel old new t).field? name = t.field? name := by
  rw [field?, field?, lookup_relabel t hname]

theorem kind?_relabel (t : Tree) : (relabel old new t).kind? = t.kind? := by
  rw [kind?, kind?, textField?, textField?, field?_relabel t (by decide)]

theorem boundName?_relabel (t : Tree) :
    (relabel old new t).boundName? = t.boundName?.map (renamed old new) := by
  by_cases h : t.boundName? = some old
  · have hvalue : (relabel old new t).textField? "value" = some new := by
      have hfound := textField?_of_boundName? h
      rw [textField?, field?] at hfound
      rw [relabel_of_eq h, textField?, field?, lookup_fields_mapParts]
      cases hlookup : t.fields.lookup "value" with
      | none => simp [hlookup] at hfound
      | some value => cases value <;> simp_all [putText]
    have hname := h
    rw [boundName?] at hname
    split at hname
    next hmark =>
      rw [h, boundName?, isKind, kind?_relabel, lookup_relabel t (by decide), ← isKind,
        if_pos hmark, hvalue, Option.map_some, renamed, if_pos rfl]
    next => cases hname
  · rw [relabel_of_ne h]
    cases hname : t.boundName? with
    | none => rfl
    | some name => rw [Option.map_some, renamed_of_ne fun heq => h (by rw [hname, heq])]

/-! ### Fields of a renamed tree -/

theorem renameFrom_cases (kept : Bool) {t : Tree} (h : ∀ elements, t ≠ .list elements) :
    renameFrom old new kept t =
      if kept then renameInside old new t else relabel old new (renameInside old new t) := by
  cases t with
  | list elements => exact absurd rfl (h elements)
  | object fields => exact renameFrom_object kept fields
  | _ =>
    rw [relabel_of_ne (by simp [renameInside, mapParts, boundName?, isKind, kind?, textField?,
      field?, fields]), ite_self]
    rfl

theorem kind?_renameFrom (kept : Bool) (t : Tree) :
    (renameFrom old new kept t).kind? = t.kind? := by
  by_cases hlist : ∃ elements, t = .list elements
  · obtain ⟨elements, rfl⟩ := hlist
    rw [renameFrom_list]
    rfl
  · have hinside : (renameInside old new t).kind? = t.kind? := textField?_renameInside t "type"
    rw [renameFrom_cases kept fun elements ht => hlist ⟨elements, ht⟩]
    split
    · exact hinside
    · rw [kind?_relabel, hinside]

theorem isKind_renameFrom (kept : Bool) (t : Tree) (kind : String) :
    (renameFrom old new kept t).isKind kind = t.isKind kind := by
  rw [isKind, isKind, kind?_renameFrom]

/-- The name of a renamed node, unless the node keeps it. -/
theorem boundName?_renameFrom (kept : Bool) (t : Tree) :
    (renameFrom old new kept t).boundName? =
      if kept then t.boundName? else t.boundName?.map (renamed old new) := by
  by_cases hlist : ∃ elements, t = .list elements
  · obtain ⟨elements, rfl⟩ := hlist
    have hnone : (list elements).boundName? = none := rfl
    rw [renameFrom_list, hnone, Option.map_none, ite_self]
    rfl
  · rw [renameFrom_cases kept fun elements ht => hlist ⟨elements, ht⟩]
    split
    · exact boundName?_renameInside t
    · rw [boundName?_relabel, boundName?_renameInside]

/-- A node that keeps its name has the texts that it had. -/
theorem textField?_renameFrom {kept : Bool} {t : Tree}
    (h : kept = true ∨ t.boundName? ≠ some old) (name : String) :
    (renameFrom old new kept t).textField? name = t.textField? name := by
  by_cases hlist : ∃ elements, t = .list elements
  · obtain ⟨elements, rfl⟩ := hlist
    rw [renameFrom_list]
    rfl
  · rw [renameFrom_cases kept fun elements ht => hlist ⟨elements, ht⟩]
    split
    · exact textField?_renameInside t name
    next hkept =>
      have hname := h.resolve_left hkept
      rw [relabel_of_ne (by rwa [boundName?_renameInside]), textField?_renameInside]

/-- The fields of a renamed node are renamed, other than its own name. -/
theorem field?_renameFrom (kept : Bool) {t : Tree} {name : String}
    (h : name ≠ "value" ∨ t.boundName? = none) :
    (renameFrom old new kept t).field? name =
      (t.field? name).map (renameFrom old new (isImportedPart t.kind? name)) := by
  by_cases hlist : ∃ elements, t = .list elements
  · obtain ⟨elements, rfl⟩ := hlist
    rw [renameFrom_list]
    rfl
  · rw [renameFrom_cases kept fun elements ht => hlist ⟨elements, ht⟩]
    split
    · exact field?_renameInside t name
    · rcases h with hname | hnone
      · rw [field?_relabel _ hname, field?_renameInside]
      · rw [relabel_of_ne (by simp [boundName?_renameInside, hnone]), field?_renameInside]

/-- The elements of a list field of a renamed node are renamed. -/
theorem listField_renameFrom (kept : Bool) (t : Tree) {name : String} (hname : name ≠ "value") :
    (renameFrom old new kept t).listField name =
      (t.listField name).map (renameFrom old new false) := by
  rw [listField, listField, field?_renameFrom kept (.inl hname)]
  cases t.field? name with
  | none => rfl
  | some found =>
    rw [Option.map_some]
    cases found with
    | list elements => rw [renameFrom_list]
    | object fields =>
      obtain ⟨others, hothers, -⟩ :=
        @alike_renameFrom old new (isImportedPart t.kind? name) (.object fields)
      rw [hothers]
      rfl
    | _ => rfl

/-! ### Visits of a renamed tree -/

/-- A node with changed parts that keeps its kind is visited before its parts, and these in their
order. -/
theorem visitsFrom_mapParts (change : String → Tree → Tree) {fields : List (String × Tree)}
    (hkind : (mapParts change (.object fields)).kind? = kindOf fields) (chained : Bool) :
    (mapParts change (.object fields)).visitsFrom chained =
      ⟨chained, mapParts change (.object fields)⟩ ::
        Program.arrange (Program.partOrder (kindOf fields)) (fields.map fun (part, t) =>
          (part, (change part t).visitsFrom (isChainBase (kindOf fields) part))) := by
  rw [mapParts] at hkind ⊢
  rw [visitsFrom, kindOf, hkind, visitsParts_eq_map, List.map_map]
  rfl

theorem visitsFrom_putText (t : Tree) (chained : Bool) :
    (putText new t).visitsFrom chained = t.visitsFrom chained := by
  cases t <;> rfl

/-- A renamed node is the node with its parts changed. Each part is renamed, and a text may be put
for it that is the new name. -/
theorem exists_mapParts_renameFrom (kept : Bool) (fields : List (String × Tree)) :
    ∃ change, renameFrom old new kept (.object fields) = mapParts change (.object fields) ∧
      ∀ part t, change part t = renameFrom old new (isImportedPart (kindOf fields) part) t ∨
        change part t =
          putText new (renameFrom old new (isImportedPart (kindOf fields) part) t) := by
  rw [renameFrom_object]
  by_cases hown : kept = false ∧ (Tree.object fields).boundName? = some old
  · obtain ⟨rfl, hname⟩ := hown
    rw [← @boundName?_renameInside old new] at hname
    rw [if_neg Bool.false_ne_true, relabel_of_eq hname, renameInside, mapParts_mapParts]
    refine ⟨_, rfl, fun part t => ?_⟩
    split
    · exact .inr rfl
    · exact .inl rfl
  · refine ⟨_, ?_, fun part t => .inl rfl⟩
    split
    · rfl
    next hkept =>
      refine relabel_of_ne fun hname => hown ⟨Bool.eq_false_iff.mpr hkept, ?_⟩
      rwa [boundName?_renameInside] at hname

/-- A renamed node is visited before its parts, and these in their order. -/
theorem visitsFrom_renameFrom_object (kept chained : Bool) (fields : List (String × Tree)) :
    (renameFrom old new kept (.object fields)).visitsFrom chained =
      ⟨chained, renameFrom old new kept (.object fields)⟩ ::
        Program.arrange (Program.partOrder (kindOf fields)) (fields.map fun (part, t) =>
          (part, (renameFrom old new (isImportedPart (kindOf fields) part) t).visitsFrom
            (isChainBase (kindOf fields) part))) := by
  have hkind := @kind?_renameFrom old new kept (.object fields)
  obtain ⟨change, hchange, hparts⟩ := @exists_mapParts_renameFrom old new kept fields
  rw [hchange] at hkind ⊢
  rw [visitsFrom_mapParts _ hkind]
  refine congrArg _ (congrArg _ (List.map_congr_left fun pair _ => congrArg (Prod.mk _) ?_))
  obtain hpart | hpart := hparts pair.1 pair.2
  · rw [hpart]
  · -- A text that is put for a text is no node.
    rw [hpart, visitsFrom_putText]

section

variable {α : Type} {f g : Visit → List α}

/-- What is read off the visits of a renamed tree is what is read off those of the tree, if the same
is read off every node. -/
theorem flatMap_visits_renameFrom (t : Tree) : ∀ kept chained : Bool,
    (∀ v ∈ t.visitsFrom chained, ∀ kept, f ⟨v.chained, renameFrom old new kept v.node⟩ = g v) →
    ((renameFrom old new kept t).visitsFrom chained).flatMap f =
      (t.visitsFrom chained).flatMap g := by
  induction t using Tree.induction with
  | list elements ih =>
    intro kept chained h
    rw [visitsFrom, visitsList_eq_flatMap] at h
    rw [renameFrom_list, visitsFrom, visitsFrom, visitsList_eq_flatMap, visitsList_eq_flatMap,
      List.flatMap_map, List.flatMap_assoc, List.flatMap_assoc]
    refine List.flatMap_congr fun t ht => ?_
    exact ih t ht false false fun v hv => h v (List.mem_flatMap.mpr ⟨t, ht, hv⟩)
  | object fields ih =>
    intro kept chained h
    rw [visitsFrom, visitsParts_eq_map] at h
    rw [visitsFrom_renameFrom_object, visitsFrom, List.flatMap_cons, List.flatMap_cons,
      h _ List.mem_cons_self kept, Program.flatMap_arrange, Program.flatMap_arrange,
      visitsParts_eq_map, List.map_map, List.map_map]
    refine congrArg _ (congrArg _ (List.map_congr_left fun pair hpair => ?_))
    obtain ⟨part, t⟩ := pair
    refine congrArg (Prod.mk part) (ih part t hpair _ _ fun v hv => h v ?_)
    exact List.mem_cons_of_mem _ (Program.mem_arrange.mpr
      ⟨part, _, List.mem_map_of_mem hpair, hv⟩)
  | _ => intro kept chained _; rfl

end

end ImageImports.Tree
