import ImageImports.Proofs.Program.Prepend
import ImageImports.Proofs.Transform.Turns

/-!
# The shape of a rewritten program

A run that succeeds puts one import for each image before the body of a module, and replaces the
properties of image calls that give texts as `src`. Nothing else of the program changes. Calls that
draw no image keep their own properties, but image calls inside of them are rewritten all the same.

## Main definitions

* `Call.IsPassedOver`: a call that is not rewritten itself.
* `Transform.Rewritten`: a program is a module with imports and with replaced properties.

## Main results

* `Transform.rewritten_of_run`: what a run that succeeds makes of a module.
-/

namespace ImageImports

open ImageImports.Tree (Position)

/-! ### Calls that are passed over -/

namespace Call

variable {names : FactoryNames} {program : Tree} {place : Position} {call : Tree}

/-- A call that is not rewritten itself: it is the call of an optional chain, what it calls is no
factory, one of its first two arguments is spread, or its member is given in brackets. -/
inductive IsPassedOver (names : FactoryNames) (program : Tree) (place : Position) (call : Tree) :
    Prop
  | chained (h : IsChained program place)
  | callee (h : callsFactory names call = false)
  | spread (argument : Tree) (hmem : argument ∈ (arguments call).take 2)
      (h : (argument.field? "spread").isSome = true)
  | computed (component member property : Tree) (hfirst : (arguments call)[0]? = some component)
      (hmember : expression? component = some member)
      (hproperty : member.field? "property" = some property)
      (h : property.isKind "Computed" = true)

theorem IsPassedOver.not_isImageCallAt (h : IsPassedOver names program place call) :
    ¬IsImageCallAt names program place call := by
  intro hcall
  have hdraws := hcall.draws
  rw [isImage, Bool.and_eq_true] at hdraws
  obtain ⟨hfactory, harguments⟩ := hdraws
  cases h with
  | chained hchained => exact hcall.own hchained
  | callee hcallee => simp [hcallee] at hfactory
  | spread argument hmem hspread =>
    have hnone : plainExpression? argument = none := by rw [plainExpression?, if_pos hspread]
    split at harguments
    next first second rest heq =>
      rw [heq] at hmem
      have hargument : argument = first ∨ argument = second := by simpa using hmem
      rcases hargument with rfl | rfl <;> simp [hnone] at harguments
    next => simp at harguments
  | computed component member property hfirst hmember hproperty hcomputed =>
    split at harguments
    next first second rest heq =>
      rw [heq] at hfirst
      obtain rfl := Option.some.inj hfirst
      obtain ⟨other, hother, himage⟩ :=
        (Option.any_eq_true _ _).mp (Bool.and_eq_true_iff.mp harguments).1
      have hsame : expression? first = some other := by
        rw [plainExpression?] at hother
        split at hother
        · cases hother
        · exact hother
      obtain rfl := Option.some.inj (hmember.symm.trans hsame)
      have hkind : property.kind? = some "Computed" := by simpa [Tree.isKind] using hcomputed
      simp [isImageMember, hproperty, Tree.isKind, hkind] at himage
    next => simp at harguments

theorem IsPassedOver.not_isSource (hcall : program.at? place = some call)
    (h : IsPassedOver names program place call) (index : Nat) (reference : String) :
    ¬IsSource names program (place ++ propertyWay index) reference := by
  rintro ⟨above, other, index', property, hplace, hother, -, -⟩
  obtain ⟨rfl, -⟩ := List.append_inj' hplace rfl
  obtain rfl := Option.some.inj (hcall.symm.trans hother.found)
  exact h.not_isImageCallAt hother

end Call

namespace Transform

variable {t : Transform} {draws : Draws} {turns : List Cache.Turn} {world : World}
  {document : Document} {program : Tree} {report : Report}

/-! ### Rewritten modules -/

/-- A program is another one with the imports of some records before its body. Every property of
an image call that gives a text as `src` is replaced by the name of the record of its image, and at
every other position nothing is changed. -/
structure Rewritten (names : Call.FactoryNames) (ascii : Url.ToAscii) (base : Path) (plan : Plan)
    (records : List Record) (body : List Tree) (program out : Tree) : Prop where
  body : ∃ rest, out.listField "body" =
    (records.map fun record => record.toImport.declaration) ++ rest ∧ rest.length = body.length
  source : ∀ place reference, Call.IsSource names program place reference →
    ∃ position image record, plan.indexOf? reference = some position ∧
      plan.images[position]? = some image ∧ image.source.key = Plan.keyOf ascii base reference ∧
      records[position]? = some record ∧
      out.at? (Import.shift records.length place) = some (Rewrite.boundProperty record.name)
  frame : ∀ place, place ≠ [.part "body"] →
    (∀ above reference, above <+: place → ¬Call.IsSource names program above reference) →
      Option.Rel Tree.Alike (program.at? place) (out.at? (Import.shift records.length place))

theorem not_isSource_of_images {names : Call.FactoryNames} {ascii : Url.ToAscii} {base : Path}
    (hplan : (Plan.ofProgram names ascii base program).images = []) {place : Position}
    {reference : String} : ¬Call.IsSource names program place reference := by
  intro hsource
  obtain ⟨position, image, -, himage, -⟩ := (Plan.lists_ofProgram names ascii base
    program).indexed reference (Rewrite.mem_allImageTexts_of_isSource hsource)
  simp [hplan] at himage

/-- A program without images is rewritten as it is. -/
theorem rewritten_refl {names : Call.FactoryNames} {ascii : Url.ToAscii} {base : Path}
    {body : List Tree} (hbody : program.listField "body" = body)
    (hplan : (Plan.ofProgram names ascii base program).images = []) :
    Rewritten names ascii base (Plan.ofProgram names ascii base program) [] body program
      program where
  body := ⟨body, hbody, rfl⟩
  source := fun place reference hsource => absurd hsource (not_isSource_of_images hplan)
  frame := by
    intro place _ _
    rw [List.length_nil, Import.shift_zero]
    cases program.at? place with
    | none => exact .none
    | some u => exact .some (Tree.Alike.refl u)

/-- A rewritten program has its sources replaced by the names of its plan. -/
theorem replaces_rewrittenTree {kind : String} {body : List Tree} {base : Path}
    {locals : List String} (hprogram : program.IsProgram kind body)
    (hlength : locals.length = (t.planOf program base).images.length) :
    Rewrite.Replaces (t.factoryNames program)
      (Rewrite.bindingsOf (t.planOf program base) locals) program
      (t.rewrittenTree program (t.planOf program base) locals) := by
  refine Rewrite.replaces_rewrite hprogram.plain fun reference hmem => ?_
  obtain ⟨_, _, name, -, -, -, -, hname⟩ :=
    Rewrite.exists_bindingsOf (Plan.lists_ofProgram _ _ base program) hlength hmem
  rw [planOf, hname, Option.isSome_some]

/-- The name of a source is that of the record of its image. -/
theorem exists_record {base : Path} {contents : List ByteArray} {locals : List String}
    (hnamed : t.Named draws world program (t.planOf program base) contents locals)
    {place : Position} {reference name : String}
    (hsource : Call.IsSource (t.factoryNames program) program place reference)
    (hname : Rewrite.bindingsOf (t.planOf program base) locals reference = some name) :
    ∃ position image bytes, (t.planOf program base).indexOf? reference = some position ∧
      (t.planOf program base).images[position]? = some image ∧
      image.source.key = Plan.keyOf t.ascii base reference ∧ locals[position]? = some name ∧
      contents[position]? = some bytes ∧
      (recordsOf t.cache (t.planOf program base).images locals contents)[position]? =
        some ⟨name, t.cache.pathFor bytes image.extension, bytes⟩ := by
  obtain ⟨position, image, other, hindex, himage, hkey, hlocal, hother⟩ :=
    Rewrite.exists_bindingsOf (Plan.lists_ofProgram (t.factoryNames program) t.ascii base program)
      hnamed.length_locals (Rewrite.mem_allImageTexts_of_isSource hsource)
  obtain rfl := Option.some.inj (hname.symm.trans hother)
  have hlt : position < contents.length := by
    rw [hnamed.length_contents]
    exact (List.getElem?_eq_some_iff.mp himage).1
  refine ⟨position, image, contents[position], hindex, himage, hkey, hlocal,
    List.getElem?_eq_getElem hlt, ?_⟩
  rw [getElem?_recordsOf, show (t.planOf program base).images[position]? = some image from himage,
    hlocal, List.getElem?_eq_getElem hlt]
  rfl

theorem map_toImport_ne_nil {plan : Plan} {contents : List ByteArray} {locals : List String}
    (hnamed : t.Named draws world program plan contents locals) (hplan : plan.images ≠ []) :
    (recordsOf t.cache plan.images locals contents).map Record.toImport ≠ [] := by
  intro hnil
  have hlength := congrArg List.length hnil
  rw [List.length_map, length_recordsOf t.cache hnamed.length_locals hnamed.length_contents]
    at hlength
  exact hplan (List.length_eq_zero_iff.mp hlength)

variable (t program) in
theorem isKind_rewrittenTree (plan : Plan) (locals : List String) (kind : String) :
    (t.rewrittenTree program plan locals).isKind kind = program.isKind kind := by
  rw [rewrittenTree, Rewrite.rewrite, Rewrite.isKind_rewriteFrom]

theorem exists_hasBody_rewrittenTree {body : List Tree} (hbody : program.HasBody body)
    (plan : Plan) (locals : List String) :
    ∃ rest, (t.rewrittenTree program plan locals).HasBody rest ∧ rest.length = body.length :=
  ⟨_, Rewrite.hasBody_rewrite hbody, List.length_map _⟩

/-- The imports of a module that is rewritten come before its body. -/
theorem withImports_eq_prepend {body : List Tree} {base : Path} {contents : List ByteArray}
    {locals : List String} (hprogram : program.IsProgram "Module" body)
    (hnamed : t.Named draws world program (t.planOf program base) contents locals)
    (hplan : (t.planOf program base).images ≠ []) :
    (t.withImports program (t.planOf program base) contents locals).1 =
      Import.prepend ((recordsOf t.cache (t.planOf program base).images locals contents).map
        fun record => record.toImport.declaration)
        (t.rewrittenTree program (t.planOf program base) locals) := by
  have hrecords := map_toImport_ne_nil hnamed hplan
  have hkind : (t.rewrittenTree program (t.planOf program base) locals).isKind "Module" = true := by
    rw [isKind_rewrittenTree, hprogram.isKind]
  rw [withImports, Import.inject, if_neg (by simpa using hrecords), if_pos hkind, List.map_map]
  rfl

/-- A module is rewritten to its imports and its rewritten body. -/
theorem rewritten_of_named {body : List Tree} {base : Path} {contents : List ByteArray}
    {locals : List String} (hprogram : program.IsProgram "Module" body)
    (hnamed : t.Named draws world program (t.planOf program base) contents locals)
    (hplan : (t.planOf program base).images ≠ []) :
    Rewritten (t.factoryNames program) t.ascii base (t.planOf program base)
      (recordsOf t.cache (t.planOf program base).images locals contents) body program
      (t.withImports program (t.planOf program base) contents locals).1 := by
  have hreplaces := replaces_rewrittenTree hprogram hnamed.length_locals
  obtain ⟨rest, hrest, hlength⟩ := exists_hasBody_rewrittenTree (t := t) hprogram.hasBody
    (t.planOf program base) locals
  have hitems : ((recordsOf t.cache (t.planOf program base).images locals contents).map
      fun record => record.toImport.declaration).length =
        (recordsOf t.cache (t.planOf program base).images locals contents).length :=
    List.length_map _
  rw [withImports_eq_prepend hprogram hnamed hplan]
  refine ⟨⟨rest, Import.listField_prepend _ hrest, hlength⟩,
    fun place reference hsource => ?_, fun place hplace hnot => ?_⟩
  · obtain ⟨name, hname, hat⟩ := hreplaces.prepend_source
      ((recordsOf t.cache (t.planOf program base).images locals contents).map
        fun record => record.toImport.declaration) hrest hsource
    obtain ⟨position, image, bytes, hindex, himage, hkey, -, -, hrecord⟩ :=
      exists_record hnamed hsource hname
    exact ⟨position, image, _, hindex, himage, hkey, hrecord, hitems ▸ hat⟩
  · exact hitems ▸ hreplaces.prepend_frame _ hrest hplace hnot

/-- A run that succeeds makes of a module with a body its imports and its rewritten body. There is
one import for each image, in the order in which the images are first met. What is replaced are the
properties of image calls that give a text as `src`, and each is replaced by the name of its image.
Calls that are passed over keep their own properties. Without images the program stays as it is. The
stores may take their steps in any turns. -/
theorem rewritten_of_run {body : List Tree} (hprogram : program.IsProgram "Module" body)
    (hrun : runInTurns t draws turns world document program = some report)
    (hok : report.result = .ok ()) :
    ∃ path base contents locals, placeOf world document = .ok (path, base) ∧
      (t.planOf program base).images =
        Plan.firsts t.ascii base (Call.allImageTexts (t.factoryNames program) program) ∧
      t.Named draws world program (t.planOf program base) contents locals ∧
      (recordsOf t.cache (t.planOf program base).images locals contents).length =
        (t.planOf program base).images.length ∧
      Rewritten (t.factoryNames program) t.ascii base (t.planOf program base)
        (recordsOf t.cache (t.planOf program base).images locals contents) body program
        report.program ∧
      ((t.planOf program base).images = [] → report.program = program) ∧
      ∀ place call, program.at? place = some call →
        Call.IsPassedOver (t.factoryNames program) program place call →
          ∀ index reference, ¬Call.IsSource (t.factoryNames program) program
            (place ++ Call.propertyWay index) reference := by
  have hpassed : ∀ place call, program.at? place = some call →
      Call.IsPassedOver (t.factoryNames program) program place call →
        ∀ index reference, ¬Call.IsSource (t.factoryNames program) program
          (place ++ Call.propertyWay index) reference :=
    fun place call hcall hover => hover.not_isSource hcall
  obtain ⟨path, base, hplace, ⟨hplan, rfl⟩ |
    ⟨hplan, contents, locals, _, _, _, _, hnamed, rfl, -, -, -, rfl⟩⟩ := cases_of_ok hrun hok
  · have hnamed : t.Named draws world program (t.planOf program base) [] [] := named_nil hplan
    have himages := (Plan.lists_ofProgram (t.factoryNames program) t.ascii base program).images
    refine ⟨path, base, [], [], hplace, himages, hnamed, ?_, ?_, fun _ => rfl, hpassed⟩
    · rw [length_recordsOf t.cache hnamed.length_locals hnamed.length_contents]
    · have hrecords : recordsOf t.cache (t.planOf program base).images [] [] = [] := by
        rw [hplan]
        rfl
      rw [hrecords]
      exact rewritten_refl hprogram.hasBody.listField_body hplan
  · exact ⟨path, base, contents, locals, hplace,
      (Plan.lists_ofProgram (t.factoryNames program) t.ascii base program).images, hnamed,
      length_recordsOf t.cache hnamed.length_locals hnamed.length_contents,
      rewritten_of_named hprogram hnamed hplan, fun hnil => absurd hnil hplan, hpassed⟩

/-- A module in which two calls, one inside of the other, draw one image. -/
theorem rewritten_of_run_nested :
    ∃ body report base plan records, Tree.nestedImages.IsProgram "Module" body ∧
      run (offline "/c" 'j') .counted .withImage (.ofPath (.ofText "/p/index.md"))
        .nestedImages = some report ∧ report.result = .ok () ∧
      Rewritten ["jsx"] .ofAscii base plan records body .nestedImages report.program := by
  obtain ⟨turns, report, hturns, hrun, hok⟩ := exists_of_succeeds succeeds_nestedImages
  obtain ⟨path, base, contents, locals, -, -, -, -, hrewritten, -⟩ :=
    rewritten_of_run Tree.isProgram_nestedImages hturns hok
  rw [factoryNames_nestedImages] at hrewritten
  exact ⟨_, report, base, _, _, Tree.isProgram_nestedImages, hrun, hok, hrewritten⟩

end Transform

end ImageImports
