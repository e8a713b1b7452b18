import ImageImports.Proofs.Transform.References

/-!
# Names that are bound

A run replaces texts by names in every program, but only a module can hold the imports that bind
the names. A script is rewritten without them, and the host is warned. It has image calls if the
declaration of a module in it imports a factory.

## Main definitions

* `Transform.importCount`: the number of imports that a run puts before the body of a program.
* `Transform.IsReplacement`: a run has put a name in the place of a text.
* `Transform.Fate`: what becomes of such a name.

## Main results

* `Transform.replacements_bound_iff`: all names are bound in modules and in programs without image
  calls, and in no other program.
-/

namespace ImageImports.Transform

open ImageImports.Tree (Position)

variable {t : Transform} {draws : Draws} {turns : List Cache.Turn} {world : World}
  {document : Document} {program : Tree} {report : Report}

variable (t program) in
/-- The number of imports that a run puts before the body of a program. -/
def importCount (base : Path) : Nat :=
  if program.isKind "Module" then (t.planOf program base).images.length else 0

variable (t program) in
/-- A run has put a name in the place of a text that an image call gave as `src`. -/
def IsReplacement (base : Path) (out : Tree) (name : String) : Prop :=
  ∃ place reference, Call.IsSource (t.factoryNames program) program place reference ∧
    out.at? (Import.shift (t.importCount program base) place) = some (Rewrite.boundProperty name)

variable (program report) in
/-- What becomes of a name that is put in the place of a text. In a module one import declaration
binds it, to a default export. In another program none does, and the host is warned. -/
inductive Fate (name : String) : Prop
  | imported (hkind : program.isKind "Module" = true) (file : String)
      (h : Import.bindersOf name report.program = [Import.declaration ⟨name, file⟩])
  | dangling (hkind : program.isKind "Module" = false)
      (h : Import.bindersOf name report.program = []) (hwarned : .importsDropped ∈ report.warnings)

theorem boundProperty_inj {name other : String}
    (h : Rewrite.boundProperty name = Rewrite.boundProperty other) : name = other := by
  simpa [Rewrite.boundProperty, Tree.node, Tree.binding] using h

theorem not_isSource_nil {place : Position} {reference : String} :
    ¬Call.IsSource [] program place reference := by
  rintro ⟨above, call, index, property, -, hcall, -, -⟩
  have hdraws := hcall.draws
  rw [Call.isImage, Bool.and_eq_true] at hdraws
  have hnone : Call.callsFactory [] call = false := by
    unfold Call.callsFactory
    split <;> simp
  rw [hnone] at hdraws
  exact Bool.false_ne_true hdraws.1

/-- A program that is no module is rewritten without imports, and the host is warned. -/
theorem withImports_of_not_isModule {base : Path} {contents : List ByteArray}
    {locals : List String} (hkind : program.isKind "Module" = false)
    (hnamed : t.Named draws world program (t.planOf program base) contents locals)
    (hplan : (t.planOf program base).images ≠ []) :
    t.withImports program (t.planOf program base) contents locals =
      (t.rewrittenTree program (t.planOf program base) locals, [.importsDropped]) := by
  have hrecords := map_toImport_ne_nil hnamed hplan
  have hkept : (t.rewrittenTree program (t.planOf program base) locals).isKind "Module" = false :=
    (isKind_rewrittenTree t program _ _ _).trans hkind
  rw [withImports, Import.inject, if_neg (by simpa using hrecords), if_neg (by simp [hkept])]

/-- Every text of an image call is replaced by a name. -/
theorem exists_replacement {kind : String} {body : List Tree} {path base : Path}
    {contents : List ByteArray} {locals : List String} {files : FileSystem}
    {stores : List (Except TransformError Bool)} (hprogram : program.IsProgram kind body)
    (hnamed : t.Named draws world program (t.planOf program base) contents locals)
    (hplan : (t.planOf program base).images ≠ [])
    (hreport : report = Report.finished t world document program (t.planOf program base) path
      contents locals files stores)
    {place : Position} {reference : String}
    (hsource : Call.IsSource (t.factoryNames program) program place reference) :
    ∃ name, report.program.at? (Import.shift (t.importCount program base) place) =
        some (Rewrite.boundProperty name) ∧ Fate program report name := by
  subst hreport
  by_cases hkind : program.isKind "Module" = true
  · have hmodule : program.IsProgram "Module" body := ⟨hkind, hprogram.hasBody, hprogram.plain⟩
    obtain ⟨position, image, record, -, -, -, hrecord, hat⟩ :=
      (rewritten_of_named hmodule hnamed hplan).source place reference hsource
    rw [length_recordsOf t.cache hnamed.length_locals hnamed.length_contents] at hat
    rw [importCount, if_pos hkind]
    exact ⟨record.name, hat, .imported hkind record.path.text
      (bindersOf_withImports hmodule hnamed hplan (List.mem_of_getElem? hrecord))⟩
  · have hkind := Bool.eq_false_iff.mpr hkind
    have hfinished := withImports_of_not_isModule hkind hnamed hplan
    obtain ⟨name, hname, hat⟩ :=
      (replaces_rewrittenTree hprogram hnamed.length_locals).source place reference hsource
    obtain ⟨position, image, bytes, -, -, -, -, -, hrecord⟩ := exists_record hnamed hsource hname
    have hfresh := notMem_boundNames_of_record hnamed (List.mem_of_getElem? hrecord)
    rw [importCount, if_neg (by simp [hkind]), Import.shift_zero]
    rw [Report.finished, hfinished]
    refine ⟨name, hat, .dangling hkind ?_ (List.mem_append_right _ List.mem_cons_self)⟩
    rw [Import.bindersOf, List.filter_map, List.map_eq_nil_iff, List.filter_eq_nil_iff]
    intro v hv
    simp [Rewrite.binds_rewrite hfresh hv]

/-- If all texts of image calls are replaced by names with one of the two fates, then all names are
bound if and only if the program is a module or has no such texts. -/
theorem bound_iff_of_fate {base : Path}
    (hreplaced : ∀ place reference, Call.IsSource (t.factoryNames program) program place reference →
      ∃ name, report.program.at? (Import.shift (t.importCount program base) place) =
        some (Rewrite.boundProperty name))
    (hfate : ∀ name, t.IsReplacement program base report.program name →
      Fate program report name) :
    (∀ name, t.IsReplacement program base report.program name →
      Import.bindersOf name report.program ≠ []) ↔
        program.isKind "Module" = true ∨ ∀ place reference,
          ¬Call.IsSource (t.factoryNames program) program place reference := by
  constructor
  · intro hbound
    by_cases hkind : program.isKind "Module" = true
    · exact Or.inl hkind
    · -- A text of an image call would be replaced by a name that nothing binds.
      refine Or.inr fun place reference hsource => ?_
      obtain ⟨name, hat⟩ := hreplaced place reference hsource
      have hreplacement : t.IsReplacement program base report.program name :=
        ⟨place, reference, hsource, hat⟩
      cases hfate name hreplacement with
      | imported hmodule file h => exact hkind hmodule
      | dangling hother h hwarned => exact hbound name hreplacement h
  · rintro (hkind | hno) name hreplacement
    · cases hfate name hreplacement with
      | imported hmodule file h => simp [h]
      | dangling hother h hwarned => simp [hkind] at hother
    · obtain ⟨place, reference, hsource, -⟩ := hreplacement
      exact absurd hsource (hno place reference)

/-- Every text of an image call is replaced by a name, in a module and in every other program, but
only in a module the name is bound. So all names are bound if and only if the program is a module
or has no texts of image calls, as is the case where no factory is imported. The stores of the run
may take their steps in any turns. -/
theorem replacements_bound_iff {kind : String} {body : List Tree}
    (hprogram : program.IsProgram kind body)
    (hrun : runInTurns t draws turns world document program = some report)
    (hok : report.result = .ok ()) :
    ∃ path base, placeOf world document = .ok (path, base) ∧
      (∀ place reference, Call.IsSource (t.factoryNames program) program place reference →
        ∃ name, report.program.at? (Import.shift (t.importCount program base) place) =
          some (Rewrite.boundProperty name)) ∧
      (∀ name, t.IsReplacement program base report.program name → Fate program report name) ∧
      ((∀ name, t.IsReplacement program base report.program name →
        Import.bindersOf name report.program ≠ []) ↔
          program.isKind "Module" = true ∨ ∀ place reference,
            ¬Call.IsSource (t.factoryNames program) program place reference) ∧
      (t.factoryNames program = [] → ∀ place reference,
        ¬Call.IsSource (t.factoryNames program) program place reference) := by
  obtain ⟨path, base, hplace, hends⟩ := cases_of_ok hrun hok
  have hreplacement : ∀ place reference,
      Call.IsSource (t.factoryNames program) program place reference →
        ∃ name, report.program.at? (Import.shift (t.importCount program base) place) =
          some (Rewrite.boundProperty name) ∧ Fate program report name := by
    intro place reference hsource
    rcases hends with ⟨hplan, -⟩ |
      ⟨hplan, contents, locals, _, _, _, _, hnamed, -, -, -, -, hreport⟩
    · exact absurd hsource (not_isSource_of_images hplan)
    · exact exists_replacement hprogram hnamed hplan hreport hsource
  have hreplaced : ∀ place reference,
      Call.IsSource (t.factoryNames program) program place reference →
        ∃ name, report.program.at? (Import.shift (t.importCount program base) place) =
          some (Rewrite.boundProperty name) := by
    intro place reference hsource
    obtain ⟨name, hat, -⟩ := hreplacement place reference hsource
    exact ⟨name, hat⟩
  have hfate : ∀ name, t.IsReplacement program base report.program name →
      Fate program report name := by
    rintro name ⟨place, reference, hsource, hat⟩
    obtain ⟨other, hother, hend⟩ := hreplacement place reference hsource
    obtain rfl := boundProperty_inj (Option.some.inj (hat.symm.trans hother))
    exact hend
  refine ⟨path, base, hplace, hreplaced, hfate, bound_iff_of_fate hreplaced hfate,
    fun hnames place reference => ?_⟩
  rw [hnames]
  exact not_isSource_nil

theorem succeeds_declaredImage :
    succeeds (offline "/c" 'j') .counted .withImage (.ofPath (.ofText "/p/index.md"))
      .declaredImage = true := by
  decide +kernel

/-- A script is rewritten, and nothing binds the name in it. -/
theorem replacements_bound_iff_script :
    ∃ report base name,
      run (offline "/c" 'j') .counted .withImage (.ofPath (.ofText "/p/index.md")) .declaredImage =
        some report ∧ report.result = .ok () ∧
      report.program.at? (Tree.outerCall ++ Call.propertyWay 0) =
        some (Rewrite.boundProperty name) ∧
      Import.bindersOf name report.program = [] ∧ .importsDropped ∈ report.warnings ∧
      ¬∀ name, IsReplacement (offline "/c" 'j') .declaredImage base report.program name →
        Import.bindersOf name report.program ≠ [] := by
  have hnames : factoryNames (offline "/c" 'j') .declaredImage = ["jsx"] := by decide +kernel
  have hkind : Tree.declaredImage.isKind "Module" = false := by decide
  have hsource : Call.IsSource (factoryNames (offline "/c" 'j') .declaredImage) .declaredImage
      (Tree.outerCall ++ Call.propertyWay 0) "logo.png" := by
    rw [hnames]
    exact Call.isSource_drawing rfl (by decide) rfl
  obtain ⟨turns, report, hturns, hrun, hok⟩ := exists_of_succeeds succeeds_declaredImage
  obtain ⟨path, base, -, hreplaced, hfate, hiff, -⟩ :=
    replacements_bound_iff Tree.isProgram_declaredImage hturns hok
  obtain ⟨name, hat⟩ := hreplaced _ _ hsource
  have hend := hfate name ⟨_, _, hsource, hat⟩
  rw [importCount, if_neg (by simp [hkind]), Import.shift_zero] at hat
  cases hend with
  | imported hmodule file h => simp [hkind] at hmodule
  | dangling _ h hwarned =>
    refine ⟨report, base, name, hrun, hok, hat, h, hwarned, fun hbound => ?_⟩
    rcases hiff.mp hbound with hmodule | hno
    · simp [hkind] at hmodule
    · exact hno _ _ hsource

end ImageImports.Transform
