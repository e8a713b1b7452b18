import ImageImports.Proofs.Program.Prepend
import ImageImports.Proofs.Rewrite.Imports

/-!
# Names in rewritten programs

Names that a program binds or refers to are looked for at every position. A name that the program
does not bear stands in the rewritten program just where it was put: as the value of a property
that gave a text as `src`. New items before the body bring their own names, and leave those of the
program in their places.

## Main definitions

* `Tree.nameAt?`: the name that stands at a position.
* `Tree.Nameless`: a tree without names.
* `Import.localWay`: the way from an import to the name that it binds.

## Main results

* `Tree.mem_boundNames_of_nameAt?`: a name at a position is a name of the program.
* `Import.nameAt?_declaration_iff`: an import bears its name once.
* `Import.nameAt?_prepend_iff`: the names of a module with new items.
* `Rewrite.nameAt?_rewrite_iff`: where a new name stands in a rewritten program.
-/

namespace ImageImports

open ImageImports.Tree (Step Position)

/-! ### Names at positions -/

namespace Tree

/-- The name that stands at a position, if the program binds a name there or refers to one. -/
def nameAt? (t : Tree) (place : Position) : Option String := (t.at? place).bind boundName?

theorem nameAt?_append (t : Tree) (place rest : Position) :
    t.nameAt? (place ++ rest) = (t.at? place).bind fun u => u.nameAt? rest := by
  rw [nameAt?, at?_append, Option.bind_assoc]
  rfl

theorem nameAt?_cons (t : Tree) (step : Step) (rest : Position) :
    t.nameAt? (step :: rest) = (t.child? step).bind fun u => u.nameAt? rest :=
  nameAt?_append t [step] rest |>.trans (by rw [at?_cons]; cases t.child? step <;> rfl)

theorem exists_fields_of_boundName? {t : Tree} {name : String} (h : t.boundName? = some name) :
    ∃ fields, t = .object fields := by
  have hkind : t.isKind "Identifier" = true := by
    by_contra hkind
    simp [boundName?, hkind] at h
  exact exists_fields_of_isKind hkind

/-- A name at a position is a name of the program. -/
theorem mem_boundNames_of_nameAt? {program : Tree} {place : Position} {name : String}
    (h : program.nameAt? place = some name) : name ∈ program.boundNames := by
  obtain ⟨u, hat, hname⟩ := Option.bind_eq_some_iff.mp h
  obtain ⟨fields, rfl⟩ := exists_fields_of_boundName? hname
  obtain ⟨role, hrole⟩ := Rewrite.Role.exists_reach [] .plain hat
  have hvisit : (⟨decide (role = .chained), .object fields⟩ : Visit) ∈ program.visits := by
    refine Rewrite.Role.visits_reach hrole ?_
    rw [visitsFrom]
    exact List.mem_cons_self
  exact List.mem_filterMap.mpr ⟨_, hvisit, hname⟩

theorem mem_of_lookup {fields : List (String × Tree)} {part : String} {u : Tree}
    (h : fields.lookup part = some u) : (part, u) ∈ fields := by
  obtain ⟨before, after, rfl, -⟩ := List.lookup_eq_some_iff.mp h
  exact List.mem_append_right _ List.mem_cons_self

/-- No name stands anywhere in a tree. -/
def Nameless (t : Tree) : Prop := ∀ place, t.nameAt? place = none

theorem nameless_text (s : String) : Nameless (.text s) := by
  intro place
  cases place with
  | nil => rfl
  | cons step rest => cases step <;> rfl

theorem nameless_bool (b : Bool) : Nameless (.bool b) := by
  intro place
  cases place with
  | nil => rfl
  | cons step rest => cases step <;> rfl

section

variable {fields : List (String × Tree)} {name : String} {place : Position}

/-- The names of a node that is no name itself are those of its parts. -/
theorem exists_of_nameAt?_object (hself : (Tree.object fields).boundName? = none)
    (h : (Tree.object fields).nameAt? place = some name) :
    ∃ part u rest, place = .part part :: rest ∧ fields.lookup part = some u ∧
      u.nameAt? rest = some name := by
  cases place with
  | nil => rw [nameAt?, at?_nil, Option.bind_some, hself] at h; cases h
  | cons step rest =>
    rw [nameAt?_cons] at h
    obtain ⟨u, hchild, hname⟩ := Option.bind_eq_some_iff.mp h
    cases step with
    | element index => simp [child?, elements] at hchild
    | part part => exact ⟨part, u, rest, rfl, hchild, hname⟩

theorem nameless_object (hself : (Tree.object fields).boundName? = none)
    (h : ∀ pair ∈ fields, pair.2.Nameless) : Nameless (.object fields) := by
  intro place
  by_contra hsome
  obtain ⟨name, hname⟩ := Option.ne_none_iff_exists'.mp hsome
  obtain ⟨part, u, rest, -, hlookup, hinner⟩ := exists_of_nameAt?_object hself hname
  rw [h _ (mem_of_lookup hlookup) rest] at hinner
  cases hinner

/-- The names of a node are those of a part, if no other part has any. -/
theorem nameAt?_object_iff (part : String) {u : Tree}
    (hself : (Tree.object fields).boundName? = none) (hpart : fields.lookup part = some u)
    (hother : ∀ pair ∈ fields, pair.1 ≠ part → pair.2.Nameless) :
    (Tree.object fields).nameAt? place = some name ↔
      ∃ rest, place = .part part :: rest ∧ u.nameAt? rest = some name := by
  constructor
  · intro h
    obtain ⟨found, v, rest, rfl, hlookup, hinner⟩ := exists_of_nameAt?_object hself h
    by_cases hfound : found = part
    · subst hfound
      obtain rfl := Option.some.inj (hpart.symm.trans hlookup)
      exact ⟨rest, rfl, hinner⟩
    · rw [hother _ (mem_of_lookup hlookup) hfound rest] at hinner
      cases hinner
  · rintro ⟨rest, rfl, hinner⟩
    rw [nameAt?_cons, show (Tree.object fields).child? (.part part) = some u from hpart]
    exact hinner

theorem nameAt?_singleton_iff {u : Tree} : (Tree.list [u]).nameAt? place = some name ↔
    ∃ rest, place = .element 0 :: rest ∧ u.nameAt? rest = some name := by
  constructor
  · intro h
    cases place with
    | nil => cases h
    | cons step rest =>
      rw [nameAt?_cons] at h
      obtain ⟨v, hchild, hname⟩ := Option.bind_eq_some_iff.mp h
      cases step with
      | part part => cases hchild
      | element index =>
        cases index with
        | zero => exact ⟨rest, rfl, Option.some.inj hchild ▸ hname⟩
        | succ index => cases hchild
  · rintro ⟨rest, rfl, hinner⟩
    exact hinner

end

theorem nameAt?_binding_iff {given name : String} {place : Position} :
    (binding given).nameAt? place = some name ↔ place = [] ∧ given = name := by
  constructor
  · intro h
    cases place with
    | nil => exact ⟨rfl, Option.some.inj h⟩
    | cons step rest =>
      rw [nameAt?_cons] at h
      obtain ⟨u, hchild, hname⟩ := Option.bind_eq_some_iff.mp h
      cases step with
      | element index => cases hchild
      | part part =>
        have hmem := mem_of_lookup hchild
        simp only [binding, node, fields, List.mem_cons, List.not_mem_nil, or_false,
          Prod.mk.injEq] at hmem
        rcases hmem with ⟨-, rfl⟩ | ⟨-, rfl⟩ | ⟨-, rfl⟩
        · rw [nameless_text] at hname; cases hname
        · rw [nameless_text] at hname; cases hname
        · rw [nameless_bool] at hname; cases hname
  · rintro ⟨rfl, rfl⟩
    rfl

end Tree

/-! ### New properties and new imports -/

theorem Rewrite.nameAt?_boundProperty_iff {given name : String} {place : Position} :
    (boundProperty given).nameAt? place = some name ↔
      place = [.part "value"] ∧ given = name := by
  have hkey : (Tree.propertyName "src").Nameless :=
    Tree.nameless_object rfl (by simp [Tree.nameless_text])
  rw [boundProperty, Tree.node, Tree.nameAt?_object_iff "value" rfl rfl
    (by simp [Tree.nameless_text, hkey])]
  simp only [Tree.nameAt?_binding_iff]
  exact ⟨fun ⟨_, hplace, hrest, hname⟩ => ⟨hrest ▸ hplace, hname⟩,
    fun ⟨hplace, hname⟩ => ⟨[], hplace, rfl, hname⟩⟩

namespace Import

/-- The way from an import to the name that it binds. -/
def localWay : Position := [.part "specifiers", .element 0, .part "local"]

/-- An import bears its name once. -/
theorem nameAt?_declaration_iff {i : Import} {name : String} {place : Position} :
    i.declaration.nameAt? place = some name ↔ place = localWay ∧ i.name = name := by
  have hsource : (Tree.node "StringLiteral" [("value", .text i.path)]).Nameless :=
    Tree.nameless_object rfl (by simp [Tree.nameless_text])
  rw [declaration, Tree.node, Tree.nameAt?_object_iff "specifiers" rfl rfl
    (by simp [Tree.nameless_text, Tree.nameless_bool, hsource])]
  have hspecifier (rest : Position) : (Tree.node "ImportDefaultSpecifier"
      [("local", .binding i.name)]).nameAt? rest = some name ↔
        ∃ last, rest = .part "local" :: last ∧ (Tree.binding i.name).nameAt? last = some name :=
    Tree.nameAt?_object_iff "local" rfl rfl (by simp [Tree.nameless_text])
  simp only [Tree.nameAt?_singleton_iff, hspecifier, Tree.nameAt?_binding_iff]
  constructor
  · rintro ⟨_, rfl, _, rfl, _, rfl, rfl, hname⟩
    exact ⟨rfl, hname⟩
  · rintro ⟨rfl, hname⟩
    exact ⟨_, rfl, _, rfl, _, rfl, rfl, hname⟩

/-- A position in a program with new items is in one of them, or it is that of something in the
program before. -/
theorem exists_of_position (count : Nat) (place : Position) :
    (∃ old, place = shift count old) ∨
      ∃ i rest, i < count ∧ place = .part "body" :: .element i :: rest := by
  by_cases hshape : ∃ i rest, place = .part "body" :: .element i :: rest
  · obtain ⟨i, rest, rfl⟩ := hshape
    by_cases hi : i < count
    · exact Or.inr ⟨i, rest, hi, rfl⟩
    · refine Or.inl ⟨.part "body" :: .element (i - count) :: rest, ?_⟩
      rw [shift, Nat.sub_add_cancel (Nat.le_of_not_lt hi)]
  · refine Or.inl ⟨place, ?_⟩
    unfold shift
    split
    next i rest => exact absurd ⟨i, rest, rfl⟩ hshape
    next => rfl

section

variable (items : List Tree) {body : List Tree} {program : Tree} (hbody : program.HasBody body)

include hbody

theorem nameAt?_item {i : Nat} {item : Tree} (hitem : items[i]? = some item) (rest : Position) :
    (prepend items program).nameAt? (.part "body" :: .element i :: rest) = item.nameAt? rest := by
  have hchild : (Tree.list (items ++ body)).child? (.element i) = some item := by
    rw [Tree.child?, Tree.elements,
      List.getElem?_append_left (List.getElem?_eq_some_iff.mp hitem).1, hitem]
  rw [Tree.nameAt?_cons, child?_prepend items hbody, hbody.child?_body, Option.map_some,
    Option.bind_some, if_pos (beq_self_eq_true _), Tree.nameAt?_cons, Tree.elements, hchild]
  rfl

theorem nameAt?_shift (hkind : program.isKind "Module" = true) (place : Position) :
    (prepend items program).nameAt? (shift items.length place) = program.nameAt? place := by
  have hnone (t : Tree) (ht : t.isKind "Module" = true) : t.boundName? = none := by
    have hother : t.kind? = some "Module" := by simpa [Tree.isKind] using ht
    simp [Tree.boundName?, Tree.isKind, hother]
  by_cases htop : place = []
  · subst htop
    have hkept : (prepend items program).isKind "Module" = true :=
      (isKind_prepend items hbody "Module").trans hkind
    exact (hnone _ hkept).trans (hnone _ hkind).symm
  · by_cases hplace : place = [.part "body"]
    · subst hplace
      have hlist (t : Tree) (elements : List Tree)
          (h : t.child? (.part "body") = some (.list elements)) :
          t.nameAt? [.part "body"] = none := by
        rw [Tree.nameAt?_cons, h]
        rfl
      rw [hlist program body hbody.child?_body]
      refine hlist _ (items ++ body) ?_
      rw [child?_prepend items hbody, hbody.child?_body]
      rfl
    · rw [Tree.nameAt?, Tree.nameAt?, at?_prepend items hbody htop hplace]

/-- The names of a module with new items are those of the items, and those of the module at their
shifted positions. -/
theorem nameAt?_prepend_iff (hkind : program.isKind "Module" = true) {name : String}
    {place : Position} :
    (prepend items program).nameAt? place = some name ↔
      (∃ old, place = shift items.length old ∧ program.nameAt? old = some name) ∨
        ∃ i item rest, place = .part "body" :: .element i :: rest ∧ items[i]? = some item ∧
          item.nameAt? rest = some name := by
  constructor
  · intro h
    rcases exists_of_position items.length place with ⟨old, rfl⟩ | ⟨i, rest, hi, rfl⟩
    · rw [nameAt?_shift items hbody hkind] at h
      exact Or.inl ⟨old, rfl, h⟩
    · have hitem : items[i]? = some items[i] := List.getElem?_eq_getElem hi
      rw [nameAt?_item items hbody hitem] at h
      exact Or.inr ⟨i, _, rest, rfl, hitem, h⟩
  · rintro (⟨old, rfl, h⟩ | ⟨i, item, rest, rfl, hitem, h⟩)
    · rw [nameAt?_shift items hbody hkind, h]
    · rw [nameAt?_item items hbody hitem, h]

end

end Import

/-! ### Names of rewritten programs -/

namespace Rewrite

variable {names : Call.FactoryNames} {bindings : Bindings} {program : Tree} {place : Position}
  {name : String}

theorem boundName?_substitute {role : Role} {t : Tree} (h : role.replacement? bindings t = none) :
    (substitute names bindings role t).boundName? = t.boundName? := by
  cases t with
  | object fields =>
    rw [substitute_object, h, Option.getD_none, substituteInside]
    exact Tree.boundName?_mapParts
      (fun part u => alike_substitute_ofPart role (.object fields) part u) _
  | list elements => rw [substitute_list]; rfl
  | _ => rfl

/-- Outside of the properties that are replaced the names stay. -/
theorem nameAt?_rewrite_of_not_isSource
    (hnot : ∀ above reference, above <+: place → ¬Call.IsSource names program above reference) :
    (rewrite names bindings program).tree.nameAt? place = program.nameAt? place := by
  rw [tree_rewrite_eq_substitute, Tree.nameAt?, Tree.nameAt?, at?_substitute,
    ← Role.map_snd_reach names .plain]
  · cases hreach : Role.reach names .plain program place with
    | none => rfl
    | some found =>
      exact boundName?_substitute (replacement?_eq_none hreach fun reference =>
        hnot place reference (List.prefix_refl place))
  · intro above role parent hway _ hparent
    exact replacement?_eq_none hparent fun reference => hnot above reference hway

/-- A name that a program does not bear stands in the rewritten program where it was put. -/
theorem nameAt?_rewrite_iff
    (hreplaces : Replaces names bindings program (rewrite names bindings program).tree)
    (hname : name ∉ program.boundNames) :
    (rewrite names bindings program).tree.nameAt? place = some name ↔
      ∃ source reference, Call.IsSource names program source reference ∧
        bindings reference = some name ∧ place = source ++ [.part "value"] := by
  constructor
  · intro h
    by_cases hcovered : ∃ above reference, above <+: place ∧
        Call.IsSource names program above reference
    · obtain ⟨source, reference, ⟨rest, rfl⟩, hsource⟩ := hcovered
      obtain ⟨given, hgiven, hat⟩ := hreplaces.source source reference hsource
      rw [Tree.nameAt?_append, hat, Option.bind_some, nameAt?_boundProperty_iff] at h
      obtain ⟨rfl, rfl⟩ := h
      exact ⟨source, reference, hsource, hgiven, rfl⟩
    · rw [nameAt?_rewrite_of_not_isSource fun above reference hway hsource =>
        hcovered ⟨above, reference, hway, hsource⟩] at h
      exact absurd (Tree.mem_boundNames_of_nameAt? h) hname
  · rintro ⟨source, reference, hsource, hgiven, rfl⟩
    obtain ⟨given, hgiven', hat⟩ := hreplaces.source source reference hsource
    obtain rfl := Option.some.inj (hgiven.symm.trans hgiven')
    rw [Tree.nameAt?_append, hat, Option.bind_some, nameAt?_boundProperty_iff]
    exact ⟨rfl, rfl⟩

end Rewrite

end ImageImports
