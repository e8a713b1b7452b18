import ImageImports.Proofs.Plan.References
import ImageImports.Proofs.Rewrite.Met

/-!
# Plans and rewriting agree

A plan is made of the program as it was, and used on a program that is rewritten from the inside
out. Every text that is met by then has an image in the plan, so every one is replaced.

## Main results

* `Rewrite.exists_bindingsOf`: every text of an image call is bound to the name of its image.
* `Rewrite.apply_ofProgram`: with one name for each image, all texts are replaced and counted.
-/

namespace ImageImports.Rewrite

variable {names : Call.FactoryNames} {ascii : Url.ToAscii} {base : Path} {program : Tree}

/-- A listed reference is bound to the name of the image that has its key. -/
theorem exists_bindingsOf {references : List String} {p : Plan}
    (h : Plan.Lists ascii base references p) {locals : List String}
    (hlength : locals.length = p.images.length) {reference : String}
    (hmem : reference ∈ references) :
    ∃ position image name, p.indexOf? reference = some position ∧
      p.images[position]? = some image ∧ image.source.key = Plan.keyOf ascii base reference ∧
      locals[position]? = some name ∧ bindingsOf p locals reference = some name := by
  obtain ⟨position, image, hindex, himage, hkey⟩ := h.indexed reference hmem
  have hlt : position < locals.length := by
    rw [hlength]
    exact (List.getElem?_eq_some_iff.mp himage).1
  refine ⟨position, image, locals[position], hindex, himage, hkey,
    List.getElem?_eq_getElem hlt, ?_⟩
  rw [bindingsOf, hindex, Option.bind_some, List.getElem?_eq_getElem hlt]

/-- With one name for each planned image, rewriting a program replaces every text that its image
calls give as `src`, and counts them. -/
theorem apply_ofProgram {locals : List String}
    (hlength : locals.length = (Plan.ofProgram names ascii base program).images.length) :
    apply names (Plan.ofProgram names ascii base program) locals program =
      ((rewrite names (bindingsOf (Plan.ofProgram names ascii base program) locals) program).tree,
        .ok (Call.allImageTexts names program).length) := by
  have hperm := perm_met_rewrite names
    (bindingsOf (Plan.ofProgram names ascii base program) locals) program
  have hfind : ((rewrite names (bindingsOf (Plan.ofProgram names ascii base program) locals)
      program).met.find? fun reference =>
        (bindingsOf (Plan.ofProgram names ascii base program) locals reference).isNone) = none := by
    rw [List.find?_eq_none]
    intro reference hmem
    obtain ⟨_, _, name, -, -, -, -, hname⟩ :=
      exists_bindingsOf (Plan.lists_ofProgram names ascii base program) hlength
        (hperm.mem_iff.mp hmem)
    rw [hname]
    simp
  rw [apply, if_neg (not_not_intro hlength)]
  simp only [hfind, hperm.length_eq]

end ImageImports.Rewrite
