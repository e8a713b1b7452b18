import ImageImports.Program.Rewrite

/-!
# Outlines of trees

Two trees are alike when they differ below their top at most: they are the same leaf, lists of one
length, or nodes whose fields have the same names in the same order. A change of the parts of a
node that keeps every part alike keeps all texts of the node, and so its kind.

## Main definitions

* `Tree.Alike`: trees with one top.
* `Tree.mapParts`: a node with all its parts changed.

## Main results

* `Tree.induction`: a property of all trees, from the parts of a node to the node.
* `Tree.field?_mapParts`, `Tree.textField?_mapParts`, `Tree.listField_mapParts`: the fields of a
  node with changed parts.
-/

namespace ImageImports.Tree

/-! ### Induction -/

/-- A property of all trees holds if it passes from the elements to a list and from the parts to a
node. -/
theorem induction {P : Tree → Prop} (null : P .null) (bool : ∀ b, P (.bool b))
    (number : ∀ m n, P (.number m n)) (text : ∀ s, P (.text s))
    (list : ∀ elements, (∀ t ∈ elements, P t) → P (.list elements))
    (object : ∀ fields, (∀ part t, (part, t) ∈ fields → P t) → P (.object fields)) :
    ∀ t, P t
  | .null => null
  | .bool b => bool b
  | .number m n => number m n
  | .text s => text s
  | .list elements =>
    list elements fun t _ => induction null bool number text list object t
  | .object fields =>
    object fields fun part t hmem =>
      have : sizeOf (part, t) < sizeOf fields := List.sizeOf_lt_of_mem hmem
      have : sizeOf (part, t) = 1 + sizeOf part + sizeOf t := rfl
      induction null bool number text list object t

/-! ### Trees with one top -/

/-- Two trees differ below their top at most. -/
def Alike : Tree → Tree → Prop
  | .list elements, u => ∃ others, u = .list others ∧ others.length = elements.length
  | .object fields, u => ∃ others, u = .object others ∧ others.map Prod.fst = fields.map Prod.fst
  | leaf, u => u = leaf

namespace Alike

@[refl] theorem refl (t : Tree) : t.Alike t := by
  cases t <;> simp [Alike]

theorem trans {t u v : Tree} (htu : t.Alike u) (huv : u.Alike v) : t.Alike v := by
  cases t with
  | list elements =>
    obtain ⟨others, rfl, hlength⟩ := htu
    obtain ⟨last, rfl, hlast⟩ := huv
    exact ⟨last, rfl, hlast.trans hlength⟩
  | object fields =>
    obtain ⟨others, rfl, hnames⟩ := htu
    obtain ⟨last, rfl, hlast⟩ := huv
    exact ⟨last, rfl, hlast.trans hnames⟩
  | _ => subst htu; exact huv

theorem eq_text_iff {t u : Tree} (h : t.Alike u) (s : String) : u = .text s ↔ t = .text s := by
  cases t with
  | list elements => obtain ⟨others, rfl, -⟩ := h; simp
  | object fields => obtain ⟨others, rfl, -⟩ := h; simp
  | _ => subst h; rfl

theorem eq_null_iff {t u : Tree} (h : t.Alike u) : u = .null ↔ t = .null := by
  cases t with
  | list elements => obtain ⟨others, rfl, -⟩ := h; simp
  | object fields => obtain ⟨others, rfl, -⟩ := h; simp
  | _ => subst h; rfl

theorem ne_list {t u : Tree} (h : t.Alike u) (ht : ∀ elements, t ≠ .list elements) :
    ∀ elements, u ≠ .list elements := by
  cases t with
  | list elements => exact absurd rfl (ht elements)
  | object fields => obtain ⟨others, rfl, -⟩ := h; simp
  | _ => subst h; exact ht

end Alike

/-! ### Nodes with changed parts -/

/-- A node with all its parts changed, each in its own way. What is no node stays as it is. -/
def mapParts (change : String → Tree → Tree) : Tree → Tree
  | .object fields => .object (fields.map fun (part, t) => (part, change part t))
  | t => t

section

variable {change : String → Tree → Tree}

theorem alike_ite {step : Tree → Tree} (hstep : ∀ t : Tree, t.Alike (step t)) (name part : String)
    (t : Tree) : t.Alike (if part == name then step t else t) := by
  split
  · exact hstep t
  · exact Alike.refl t

theorem mapParts_mapParts (again : String → Tree → Tree) (t : Tree) :
    (t.mapParts change).mapParts again = t.mapParts fun part u => again part (change part u) := by
  cases t <;> simp [mapParts]

theorem mapParts_id (t : Tree) : (t.mapParts fun _ u => u) = t := by
  cases t <;> simp [mapParts]

theorem mapParts_object_congr {fields : List (String × Tree)} {other : String → Tree → Tree}
    (h : ∀ part t, (part, t) ∈ fields → change part t = other part t) :
    mapParts change (.object fields) = mapParts other (.object fields) := by
  rw [mapParts, mapParts]
  congr 1
  exact List.map_congr_left fun pair hmem => congrArg (Prod.mk pair.1) (h _ _ hmem)

theorem alike_mapParts (t : Tree) : t.Alike (t.mapParts change) := by
  cases t with
  | object fields => exact ⟨_, rfl, by simp [Function.comp_def]⟩
  | _ => exact Alike.refl _

theorem lookup_map_parts (fields : List (String × Tree)) (name : String) :
    (fields.map fun (part, t) => (part, change part t)).lookup name =
      (fields.lookup name).map (change name) := by
  induction fields with
  | nil => rfl
  | cons pair rest ih =>
    obtain ⟨part, t⟩ := pair
    by_cases h : name = part
    · subst h
      simp
    · have hb : (name == part) = false := by simpa using h
      simpa [List.lookup_cons, hb] using ih

theorem lookup_fields_mapParts (t : Tree) (name : String) :
    (t.mapParts change).fields.lookup name = (t.fields.lookup name).map (change name) := by
  cases t with
  | object fields => exact lookup_map_parts fields name
  | _ => simp [mapParts, fields]

theorem filter_fields_mapParts (t : Tree) (name : String) :
    (t.mapParts change).fields.filter (·.1 == name) =
      (t.fields.filter (·.1 == name)).map fun (part, u) => (part, change part u) := by
  cases t with
  | object fields => exact List.filter_map
  | _ => rfl

variable (hchange : ∀ part (t : Tree), t.Alike (change part t))

include hchange

/-- A field of a node with changed parts is the changed field. -/
theorem field?_mapParts (t : Tree) (name : String) :
    (t.mapParts change).field? name = (t.field? name).map (change name) := by
  rw [field?, field?, lookup_fields_mapParts]
  cases hfound : t.fields.lookup name with
  | none => rfl
  | some found =>
    have hnull := (hchange name found).eq_null_iff
    by_cases h : found = .null
    · subst h
      simp [hnull.mpr rfl]
    · have hne : change name found ≠ .null := fun hc => h (hnull.mp hc)
      rw [Option.map_some]
      split <;> rename_i heq
      · exact absurd (Option.some.inj heq) hne
      · cases found <;> simp_all

/-- The texts of a node stay when its parts are kept alike. -/
theorem textField?_mapParts (t : Tree) (name : String) :
    (t.mapParts change).textField? name = t.textField? name := by
  rw [textField?, textField?, field?_mapParts hchange]
  cases hfound : t.field? name with
  | none => rfl
  | some found =>
    have htext := (hchange name found).eq_text_iff
    rw [Option.map_some]
    cases found with
    | text s => rw [(htext s).mpr rfl]
    | _ =>
      split <;> rename_i heq
      · have := (htext _).mp (Option.some.inj heq)
        simp_all
      · rfl

theorem kind?_mapParts (t : Tree) : (t.mapParts change).kind? = t.kind? :=
  textField?_mapParts hchange t "type"

theorem isKind_mapParts (t : Tree) (kind : String) :
    (t.mapParts change).isKind kind = t.isKind kind := by
  rw [isKind, isKind, kind?_mapParts hchange]

/-- The elements of a field whose list is changed. -/
theorem listField_mapParts_list (t : Tree) (name : String) {step : List Tree → List Tree}
    (hlist : ∀ elements, change name (.list elements) = .list (step elements))
    (hnil : step [] = []) :
    (t.mapParts change).listField name = step (t.listField name) := by
  rw [listField, listField, field?_mapParts hchange]
  cases hfound : t.field? name with
  | none => exact hnil.symm
  | some found =>
    rw [Option.map_some]
    by_cases hf : ∃ elements, found = .list elements
    · obtain ⟨elements, rfl⟩ := hf
      rw [hlist]
    · have hne := (hchange name found).ne_list fun elements h => hf ⟨elements, h⟩
      split <;> rename_i heq
      · exact absurd (Option.some.inj heq) (hne _)
      · split <;> simp_all

/-- The elements of a field that is a list whose elements are changed. -/
theorem listField_mapParts (t : Tree) (name : String) {step : Tree → Tree}
    (hlist : ∀ elements, change name (.list elements) = .list (elements.map step)) :
    (t.mapParts change).listField name = (t.listField name).map step :=
  listField_mapParts_list hchange t name hlist rfl

end

theorem boundName?_mapParts {change : String → Tree → Tree}
    (hchange : ∀ part (t : Tree), t.Alike (change part t)) (t : Tree) :
    (t.mapParts change).boundName? = t.boundName? := by
  rw [boundName?, boundName?, isKind_mapParts hchange, textField?_mapParts hchange,
    lookup_fields_mapParts, Option.isSome_map]

end ImageImports.Tree
