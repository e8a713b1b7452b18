import ImageImports.Program.Import
import ImageImports.Proofs.Rewrite.Sites

/-!
# Programs with new items

A program is a node with one body. Items that are put before the body shift the positions in the
body and leave everything else in its place.

## Main definitions

* `Tree.HasBody`, `Tree.IsProgram`: a node with one body, and a program of a kind.
* `Import.shift`: the position that a tree has after some items are put before the body.

## Main results

* `Import.at?_prepend`: what stands at a shifted position.
* `Rewrite.Replaces.prepend_source`, `Rewrite.Replaces.prepend_frame`: a rewritten program with new
  items.
-/

namespace ImageImports

open ImageImports.Tree (Step Position)

namespace Tree

/-- A node has one body. -/
def HasBody (body : List Tree) (program : Tree) : Prop :=
  program.fields.filter (·.1 == "body") = [("body", .list body)]

/-- A program of a kind: it has one body, and its plain texts hold no calls. -/
structure IsProgram (kind : String) (body : List Tree) (program : Tree) : Prop where
  isKind : program.isKind kind = true
  hasBody : program.HasBody body
  plain : Rewrite.PlainTexts program

namespace HasBody

variable {body : List Tree} {program : Tree} (h : program.HasBody body)

include h

theorem exists_fields : ∃ before after,
    program = .object (before ++ ("body", .list body) :: after) ∧
      (∀ pair ∈ before, pair.1 ≠ "body") ∧ ∀ pair ∈ after, pair.1 ≠ "body" := by
  obtain ⟨before, after, hfields, hbefore, -, hafter⟩ := List.filter_eq_cons_iff.mp h
  refine ⟨before, after, ?_, fun pair hpair => ?_, fun pair hpair => ?_⟩
  · cases program with
    | object fields => exact congrArg Tree.object hfields
    | _ => simp [fields] at hfields
  · simpa using hbefore pair hpair
  · simpa using List.filter_eq_nil_iff.mp hafter pair hpair

theorem child?_body : program.child? (.part "body") = some (.list body) := by
  obtain ⟨before, after, rfl, hbefore, -⟩ := h.exists_fields
  refine List.lookup_eq_some_iff.mpr ⟨before, after, rfl, fun pair hpair => ?_⟩
  simpa using (hbefore pair hpair).symm

theorem listField_body : program.listField "body" = body := listField_of_child? h.child?_body

end HasBody

end Tree

namespace Import

/-- The position that a tree has after some items are put before the body. -/
def shift (count : Nat) : Position → Position
  | .part "body" :: .element index :: rest => .part "body" :: .element (index + count) :: rest
  | place => place

theorem shift_zero (place : Position) : shift 0 place = place := by
  unfold shift
  split <;> rfl

/-- What is not below the body is not shifted. -/
theorem shift_part (count : Nat) {name : String} (h : name ≠ "body") (rest : Position) :
    shift count (.part name :: rest) = .part name :: rest := by
  unfold shift
  split
  next heq => exact absurd (Step.part.inj (List.cons.inj heq).1) h
  next => rfl

theorem shift_append (count : Nat) {place : Position} (h : 2 ≤ place.length) (rest : Position) :
    shift count (place ++ rest) = shift count place ++ rest := by
  rcases place with _ | ⟨first, _ | ⟨second, below⟩⟩
  · simp at h
  · simp at h
  cases first with
  | element i => rfl
  | part name =>
    by_cases hname : name = "body"
    · subst hname
      cases second <;> rfl
    · rw [List.cons_append, shift_part count hname, shift_part count hname]
      rfl

/-- The fields of a node stay, but for the body. -/
theorem prepend_object (items : List Tree) {body : List Tree}
    {before after : List (String × Tree)} (hbefore : ∀ pair ∈ before, pair.1 ≠ "body")
    (hafter : ∀ pair ∈ after, pair.1 ≠ "body") :
    prepend items (.object (before ++ ("body", .list body) :: after)) =
      .object (before ++ ("body", .list (items ++ body)) :: after) := by
  refine congrArg Tree.object ?_
  rw [Tree.fields, List.map_append, List.map_cons]
  refine congrArg₂ (· ++ ·) ?_ (congrArg₂ List.cons rfl ?_)
  · refine (List.map_congr_left fun pair hpair => ?_).trans (List.map_id before)
    simp [hbefore pair hpair]
  · refine (List.map_congr_left fun pair hpair => ?_).trans (List.map_id after)
    simp [hafter pair hpair]

section

variable (items : List Tree) {body : List Tree} {program : Tree} (h : program.HasBody body)

include h

theorem prepend_eq_mapParts :
    prepend items program = program.mapParts fun part t =>
      if part == "body" then .list (items ++ t.elements) else t := by
  obtain ⟨before, after, rfl, -⟩ := h.exists_fields
  rw [prepend, Tree.mapParts, Tree.fields]
  congr 1
  refine List.map_congr_left fun pair _ => ?_
  obtain ⟨part, t⟩ := pair
  dsimp only
  split <;> rfl

theorem child?_prepend (name : String) :
    (prepend items program).child? (.part name) = (program.child? (.part name)).map fun t =>
      if name == "body" then .list (items ++ t.elements) else t := by
  rw [prepend_eq_mapParts items h]
  exact Tree.lookup_fields_mapParts program name

theorem listField_prepend : (prepend items program).listField "body" = items ++ body := by
  refine Tree.listField_of_child? ?_
  rw [child?_prepend items h, h.child?_body]
  rfl

theorem isKind_prepend (kind : String) :
    (prepend items program).isKind kind = program.isKind kind := by
  have htype : (prepend items program).fields.lookup "type" = program.fields.lookup "type" := by
    have hchild := child?_prepend items h "type"
    simpa [Tree.child?, show ¬("type" == "body") = true by decide] using hchild
  simp only [Tree.isKind, Tree.kind?, Tree.textField?, Tree.field?, htype]

/-- Everything below the body of a program stands at the shifted position. -/
theorem at?_prepend {place : Position} (htop : place ≠ []) (hplace : place ≠ [.part "body"]) :
    (prepend items program).at? (shift items.length place) = program.at? place := by
  have hchild := child?_prepend items h
  have hbody := h.child?_body
  rcases place with _ | ⟨step, rest⟩
  · exact absurd rfl htop
  cases step with
  | element index =>
    obtain ⟨before, after, rfl, -⟩ := h.exists_fields
    rfl
  | part name =>
    by_cases hname : name = "body"
    · subst hname
      rcases rest with _ | ⟨inner, rest⟩
      · exact absurd rfl hplace
      cases inner with
      | part other =>
        rw [shift, Tree.at?_cons, hchild, hbody, Tree.at?_cons, hbody]
        · rfl
        · simp
      | element index =>
        have helement : (Tree.list (items ++ body)).child? (.element (index + items.length)) =
            (Tree.list body).child? (.element index) := by
          simp [Tree.child?, Tree.elements, List.getElem?_append_right]
        rw [shift, Tree.at?_cons, hchild, hbody, Option.map_some, Option.bind_some,
          if_pos (beq_self_eq_true _), Tree.at?_cons, Tree.elements, helement, Tree.at?_cons, hbody,
          Option.bind_some, Tree.at?_cons]
    · rw [shift_part items.length hname, Tree.at?_cons, hchild, Tree.at?_cons]
      simp [hname]

end

end Import

/-! ### Rewritten programs with new items -/

namespace Rewrite

variable {names : Call.FactoryNames} {bindings : Bindings} {program rewritten : Tree}
  {body rest : List Tree}

theorem hasBody_rewrite (hbody : program.HasBody body) :
    (rewrite names bindings program).tree.HasBody
      (body.map fun t => (rewriteFrom names bindings false t).tree) := by
  obtain ⟨fields, rfl⟩ : ∃ fields, program = .object fields := by
    obtain ⟨before, after, rfl, -⟩ := hbody.exists_fields
    exact ⟨_, rfl⟩
  have hplain : Role.plain.ofPart names (.object fields) "body" = .plain := by
    simp [Role.ofPart, isChainBase_eq_false]
  have hlist := substitute_eq_complete names bindings (.list body) .plain
  rw [Role.complete, decide_eq_false (by simp), tree_rewriteFrom_list] at hlist
  rw [tree_rewrite_eq_substitute, substitute_object, Role.replacement?, if_neg (by simp),
    Option.getD_none, Tree.HasBody, substituteInside, Tree.filter_fields_mapParts, hbody,
    List.map_singleton]
  dsimp only
  rw [hplain, hlist]

namespace Replaces

variable (items : List Tree) (h : Replaces names bindings program rewritten)
  (hbody : rewritten.HasBody rest)

include h hbody

/-- A property of an image call is replaced at its shifted position. -/
theorem prepend_source {place : Position} {reference : String}
    (hsource : Call.IsSource names program place reference) :
    ∃ name, bindings reference = some name ∧
      (Import.prepend items rewritten).at? (Import.shift items.length place) =
        some (boundProperty name) := by
  obtain ⟨name, hname, hplace⟩ := h.source place reference hsource
  refine ⟨name, hname, ?_⟩
  have hlength := hsource.two_le_length
  rw [Import.at?_prepend items hbody, hplace]
  · intro hnil
    simp [hnil] at hlength
  · intro hnil
    simp [hnil] at hlength

/-- Everything but the list of the body keeps its top at its shifted position. -/
theorem prepend_frame {place : Position} (hplace : place ≠ [.part "body"])
    (hnot : ∀ above reference, above <+: place →
      ¬Call.IsSource names program above reference) :
    Option.Rel Tree.Alike (program.at? place)
      ((Import.prepend items rewritten).at? (Import.shift items.length place)) := by
  have hframe := h.frame place hnot
  by_cases htop : place = []
  · subst htop
    cases hframe with
    | some halike =>
      refine .some (halike.trans ?_)
      rw [Import.prepend_eq_mapParts items hbody]
      exact Tree.alike_mapParts _
  · rw [Import.at?_prepend items hbody htop hplace]
    exact hframe

end Replaces

end Rewrite

end ImageImports
