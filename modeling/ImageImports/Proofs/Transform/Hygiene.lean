import ImageImports.Proofs.Rewrite.Names
import ImageImports.Proofs.Transform.References

/-!
# Names of new bindings

The names that a run makes differ from each other and from all names of the program. In the module
that comes of it such a name stands where its import binds it, and as the value of each property
that gave a text for its image, and nowhere else. So no scope of the program captures a new
reference, and no import captures an old one.

## Main definitions

* `Transform.nameWay`: the position of the name that an import binds.

## Main results

* `Transform.nameAt?_withImports_iff`: where a new name stands in a rewritten module.
* `Transform.generated_names_are_apart`: the names of a run that succeeds.
-/

namespace ImageImports

open ImageImports.Tree (Position)

namespace Transform

variable {t : Transform} {draws : Draws} {turns : List Cache.Turn} {world : World}
  {document : Document} {program : Tree} {report : Report}

/-- The position of the name that an import of a module binds. -/
def nameWay (j : Nat) : Position := .part "body" :: .element j :: Import.localWay

theorem bindingsOf_eq_some_iff {plan : Plan} {locals : List String} (hnodup : locals.Nodup)
    {j : Nat} {name : String} (hname : locals[j]? = some name) {reference : String} :
    Rewrite.bindingsOf plan locals reference = some name ↔ plan.indexOf? reference = some j := by
  rw [Rewrite.bindingsOf, Option.bind_eq_some_iff]
  constructor
  · rintro ⟨i, hindex, hi⟩
    rw [hindex, (List.getElem?_inj (List.getElem?_eq_some_iff.mp hi).1 hnodup).mp
      (hi.trans hname.symm)]
  · exact fun hindex => ⟨j, hindex, hname⟩

theorem name_getElem?_recordsOf {plan : Plan} {contents : List ByteArray} {locals : List String}
    (hnamed : t.Named draws world program plan contents locals) (i : Nat) :
    (recordsOf t.cache plan.images locals contents)[i]?.map Record.name = locals[i]? := by
  rw [← List.getElem?_map,
    map_name_recordsOf t.cache hnamed.length_locals hnamed.length_contents]

/-- In a rewritten module the name of an image stands where its import binds it, and as the value
of each property that gave a text for the image. -/
theorem nameAt?_withImports_iff {body : List Tree} {base : Path} {contents : List ByteArray}
    {locals : List String} (hprogram : program.IsProgram "Module" body)
    (hnamed : t.Named draws world program (t.planOf program base) contents locals)
    (hplan : (t.planOf program base).images ≠ []) {j : Nat} {name : String}
    (hname : locals[j]? = some name) (place : Position) :
    (t.withImports program (t.planOf program base) contents locals).1.nameAt? place = some name ↔
        place = nameWay j ∨ ∃ source reference,
          Call.IsSource (t.factoryNames program) program source reference ∧
            (t.planOf program base).indexOf? reference = some j ∧
              place = Import.shift locals.length source ++ [.part "value"] := by
  obtain ⟨hnodup, hfresh⟩ := NameSupply.take?_fresh hnamed.named
  have hrecords : (recordsOf t.cache (t.planOf program base).images locals contents).length =
      locals.length := by
    rw [length_recordsOf t.cache hnamed.length_locals hnamed.length_contents, hnamed.length_locals]
  have hkind : (t.rewrittenTree program (t.planOf program base) locals).isKind "Module" = true := by
    rw [isKind_rewrittenTree, hprogram.isKind]
  have hrewritten (old : Position) :
      (t.rewrittenTree program (t.planOf program base) locals).nameAt? old = some name ↔
        ∃ source reference, Call.IsSource (t.factoryNames program) program source reference ∧
          Rewrite.bindingsOf (t.planOf program base) locals reference = some name ∧
            old = source ++ [.part "value"] :=
    Rewrite.nameAt?_rewrite_iff (replaces_rewrittenTree hprogram hnamed.length_locals)
      (hfresh name (List.mem_of_getElem? hname))
  obtain ⟨rest, hbody, -⟩ := exists_hasBody_rewrittenTree (t := t) hprogram.hasBody
    (t.planOf program base) locals
  rw [withImports_eq_prepend hprogram hnamed hplan, Import.nameAt?_prepend_iff _ hbody hkind,
    List.length_map, hrecords, or_comm]
  refine or_congr ⟨?_, ?_⟩ ⟨?_, ?_⟩
  · rintro ⟨i, item, rest, rfl, hitem, hat⟩
    rw [List.getElem?_map] at hitem
    obtain ⟨record, hrecord, rfl⟩ := Option.map_eq_some_iff.mp hitem
    obtain ⟨rfl, rfl⟩ := Import.nameAt?_declaration_iff.mp hat
    have hlocal := name_getElem?_recordsOf hnamed i
    rw [hrecord, Option.map_some] at hlocal
    rw [(List.getElem?_inj (List.getElem?_eq_some_iff.mp hlocal.symm).1 hnodup).mp
      (hlocal.symm.trans hname.symm), nameWay]
  · rintro rfl
    have hlocal := (name_getElem?_recordsOf hnamed j).trans hname
    obtain ⟨record, hrecord, hrecordName⟩ := Option.map_eq_some_iff.mp hlocal
    refine ⟨j, record.toImport.declaration, Import.localWay, rfl, ?_,
      Import.nameAt?_declaration_iff.mpr ⟨rfl, hrecordName⟩⟩
    rw [List.getElem?_map, hrecord, Option.map_some]
  · rintro ⟨old, rfl, hat⟩
    obtain ⟨source, reference, hsource, hbound, rfl⟩ := (hrewritten old).mp hat
    exact ⟨source, reference, hsource, (bindingsOf_eq_some_iff hnodup hname).mp hbound,
      Import.shift_append _ hsource.two_le_length _⟩
  · rintro ⟨source, reference, hsource, hindex, rfl⟩
    exact ⟨source ++ [.part "value"], (Import.shift_append _ hsource.two_le_length _).symm,
      (hrewritten _).mpr ⟨source, reference, hsource,
        (bindingsOf_eq_some_iff hnodup hname).mpr hindex, rfl⟩⟩

/-- The names that a run makes for a module differ from each other, and none of them is a name that
stands anywhere in the module. In the module that comes of it, the name of an image is bound by its
import, and it is the value of each property that gave a text for the image. It stands nowhere
else. The stores of the run may take their steps in any turns. -/
theorem generated_names_are_apart {body : List Tree} (hprogram : program.IsProgram "Module" body)
    (hrun : runInTurns t draws turns world document program = some report)
    (hok : report.result = .ok ()) :
    ∃ path base contents locals, placeOf world document = .ok (path, base) ∧
      t.Named draws world program (t.planOf program base) contents locals ∧
      locals.length = (t.planOf program base).images.length ∧ locals.Nodup ∧
      (∀ name ∈ locals, name ∉ program.boundNames ∧ ∀ place, program.nameAt? place ≠ some name) ∧
      ∀ (j : Nat) name, locals[j]? = some name →
        (∃ file, report.program.at? [.part "body", .element j] =
          some (Import.declaration ⟨name, file⟩)) ∧
        ∀ place, report.program.nameAt? place = some name ↔
          place = nameWay j ∨ ∃ source reference,
            Call.IsSource (t.factoryNames program) program source reference ∧
              (t.planOf program base).indexOf? reference = some j ∧
                place = Import.shift locals.length source ++ [.part "value"] := by
  obtain ⟨path, base, hplace, ⟨hplan, rfl⟩ | ⟨hplan, contents, locals, _, _, _, _, hnamed, -, -, -,
    -, rfl⟩⟩ := cases_of_ok hrun hok
  · have hnamed : t.Named draws world program (t.planOf program base) [] [] := named_nil hplan
    exact ⟨path, base, [], [], hplace, hnamed, hnamed.length_locals, List.nodup_nil, by simp,
      by simp⟩
  · obtain ⟨hnodup, hfresh⟩ := NameSupply.take?_fresh hnamed.named
    have hnew : ∀ name ∈ locals, name ∉ program.boundNames := hfresh
    refine ⟨path, base, contents, locals, hplace, hnamed, hnamed.length_locals, hnodup,
      fun name hmem => ⟨hnew name hmem, fun place hat =>
        hnew name hmem (Tree.mem_boundNames_of_nameAt? hat)⟩,
      fun j name hname => ⟨?_, nameAt?_withImports_iff hprogram hnamed hplan hname⟩⟩
    obtain ⟨rest, hbody, -⟩ := (rewritten_of_named hprogram hnamed hplan).body
    obtain ⟨record, hrecord, rfl⟩ :=
      Option.map_eq_some_iff.mp ((name_getElem?_recordsOf hnamed j).trans hname)
    refine ⟨record.path.text, Tree.at?_of_listField ?_⟩
    rw [Report.program_finished, hbody, List.getElem?_append_left, List.getElem?_map, hrecord]
    · rfl
    · rw [List.length_map]
      exact (List.getElem?_eq_some_iff.mp hrecord).1

/-- The name of the image that two calls draw stands in its import and in both calls. -/
theorem generated_names_are_apart_nested :
    ∃ report name, run (offline "/c" 'j') .counted .withImage (.ofPath (.ofText "/p/index.md"))
        .nestedImages = some report ∧ name ∉ Tree.nestedImages.boundNames ∧
      report.program.nameAt? (nameWay 0) = some name ∧
      ∀ call ∈ [Tree.outerCall, Tree.innerCall], report.program.nameAt?
        (Import.shift 1 (call ++ Call.propertyWay 0) ++ [.part "value"]) = some name := by
  obtain ⟨turns, report, hturns, hrun, hok⟩ := exists_of_succeeds succeeds_nestedImages
  obtain ⟨path, base, contents, locals, hplace, hnamed, hlength, -, hfresh, hnames⟩ :=
    generated_names_are_apart Tree.isProgram_nestedImages hturns hok
  obtain ⟨rfl, rfl⟩ := Prod.mk.inj (Except.ok.inj (placeOf_withImage.symm.trans hplace))
  have hplan : (planOf (offline "/c" 'j') .nestedImages (.ofText "/p")).images.length = 1 ∧
      (planOf (offline "/c" 'j') .nestedImages (.ofText "/p")).indexOf? "logo.png" = some 0 ∧
      (planOf (offline "/c" 'j') .nestedImages (.ofText "/p")).indexOf? "./logo.png" = some 0 := by
    decide +kernel
  rw [hplan.1] at hlength
  obtain ⟨name, rfl⟩ := List.length_eq_one_iff.mp hlength
  obtain ⟨-, hat⟩ := hnames 0 name rfl
  rw [factoryNames_nestedImages] at hat
  refine ⟨report, name, hrun, (hfresh name List.mem_cons_self).1, (hat _).mpr (Or.inl rfl),
    fun call hcall => (hat _).mpr (Or.inr ?_)⟩
  rcases List.mem_pair.mp hcall with rfl | rfl
  · exact ⟨_, "logo.png", Call.isSource_drawing rfl (by decide) rfl, hplan.2.1, rfl⟩
  · exact ⟨_, "./logo.png", Call.isSource_drawing rfl (by decide) rfl, hplan.2.2, rfl⟩

end Transform

end ImageImports
