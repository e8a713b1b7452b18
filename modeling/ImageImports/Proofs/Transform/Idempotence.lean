import ImageImports.Proofs.Rewrite.Factories
import ImageImports.Proofs.Transform.Shape

/-!
# Running again

What comes of a run is a program as any other, and it may be run again: with other files around it,
another way to fetch images and another document. The second run finds the factories that the first
one found, but none of their calls gives a text as `src` any more. So nothing is left to do, and the
program stays as it is. A run of a document with a relative path still asks for the working
directory, and fails if that is gone.

## Main definitions

* `Transform.Idles`: a run has done nothing.

## Main results

* `Transform.allImageTexts_of_ok`: the image calls of a program that comes of a run give no text.
* `Transform.run_is_idempotent`: a run of what came of a run does nothing.
-/

namespace ImageImports.Transform

variable {t : Transform} {draws : Draws} {turns : List Cache.Turn} {world : World}
  {document : Document} {program : Tree} {report : Report}

/-! ### What a run leaves -/

theorem allImageTexts_of_images {base : Path} (hplan : (t.planOf program base).images = []) :
    Call.allImageTexts (t.factoryNames program) program = [] := by
  refine List.eq_nil_iff_forall_not_mem.mpr fun reference hmem => ?_
  obtain ⟨position, image, -, himage, -⟩ :=
    (Plan.lists_ofProgram (t.factoryNames program) t.ascii base program).indexed reference hmem
  rw [show (Plan.ofProgram (t.factoryNames program) t.ascii base program).images = [] from hplan]
    at himage
  cases himage

/-- With a name for every image, no text of an image call is left without one. -/
theorem unbound_of_named {base : Path} {contents : List ByteArray} {locals : List String}
    (hnamed : t.Named draws world program (t.planOf program base) contents locals) :
    Rewrite.unbound (Rewrite.bindingsOf (t.planOf program base) locals)
      (Call.allImageTexts (t.factoryNames program) program) = [] := by
  refine List.filter_eq_nil_iff.mpr fun reference hmem => ?_
  obtain ⟨_, _, name, -, -, -, -, hname⟩ :=
    Rewrite.exists_bindingsOf (Plan.lists_ofProgram (t.factoryNames program) t.ascii base program)
      hnamed.length_locals hmem
  rw [show Rewrite.bindingsOf (t.planOf program base) locals reference = some name from hname]
  simp

/-- A run that succeeds leaves the factories of its program, in their order. -/
theorem factoryNames_of_ok {kind : String} {body : List Tree}
    (hprogram : program.IsProgram kind body) (hbare : Rewrite.BareTexts program)
    (hrun : runInTurns t draws turns world document program = some report)
    (hok : report.result = .ok ()) : t.factoryNames report.program = t.factoryNames program := by
  obtain ⟨path, base, -, ⟨-, rfl⟩ | ⟨-, contents, locals, _, _, _, _, -, -, -, -, -, rfl⟩⟩ :=
    cases_of_ok hrun hok
  · rfl
  · exact (Import.factoryNames_inject _ _ (Rewrite.hasBody_rewrite hprogram.hasBody)).trans
      (Rewrite.factoryNames_rewrite _ hbare)

/-- A run that succeeds leaves no text that an image call gives as `src`. -/
theorem allImageTexts_of_ok {kind : String} {body : List Tree}
    (hprogram : program.IsProgram kind body)
    (hrun : runInTurns t draws turns world document program = some report)
    (hok : report.result = .ok ()) :
    Call.allImageTexts (t.factoryNames program) report.program = [] := by
  obtain ⟨path, base, -, ⟨hplan, rfl⟩ | ⟨-, contents, locals, _, _, _, _, hnamed, -, -, -, -,
    rfl⟩⟩ := cases_of_ok hrun hok
  · exact allImageTexts_of_images hplan
  · calc Call.allImageTexts (t.factoryNames program)
          (t.withImports program (t.planOf program base) contents locals).1
        = Call.allImageTexts (t.factoryNames program)
            (t.rewrittenTree program (t.planOf program base) locals) :=
          Import.allImageTexts_inject _ _ (Rewrite.hasBody_rewrite hprogram.hasBody)
      _ = Rewrite.unbound (Rewrite.bindingsOf (t.planOf program base) locals)
            (Call.allImageTexts (t.factoryNames program) program) :=
          Rewrite.allImageTexts_rewrite hprogram.plain
      _ = [] := unbound_of_named hnamed

/-! ### A run that does nothing -/

/-- A run has succeeded and has done nothing: the program and the world are as they were, and no
image was read, fetched or stored. -/
structure Idles (world : World) (program : Tree) (report : Report) : Prop where
  succeeds : report.result = .ok ()
  program : report.program = program
  world : report.world = world
  resolutions : report.resolutions = []
  stores : report.stores = []
  warnings : report.warnings = []

/-- A document with a path has a place, if its directory is absolute or is read from a working
directory. -/
theorem exists_placeOf {first : Path} (hfirst : document.history.head? = some first)
    (hnonempty : first.isEmpty = false)
    (hanchored : (first.parent?.getD ⟨[]⟩).isAbsolute = true ∨
      world.workingDirectory.isSome = true) :
    ∃ base, placeOf world document = .ok (first, base) := by
  obtain ⟨rest, hhistory⟩ := List.head?_eq_some_iff.mp hfirst
  have hpath : document.path = .ok first := by
    rw [Document.path, hhistory]
    exact if_neg (by simp [hnonempty])
  obtain ⟨base, hbase⟩ : ∃ base,
      Path.anchor world.workingDirectory (first.parent?.getD ⟨[]⟩) = .ok base := by
    unfold Path.anchor
    rcases hanchored with habsolute | hworking
    · exact ⟨_, if_pos habsolute⟩
    · obtain ⟨directory, hdirectory⟩ := Option.isSome_iff_exists.mp hworking
      rw [hdirectory]
      split_ifs <;> exact ⟨_, rfl⟩
  refine ⟨base, ?_⟩
  rw [placeOf, Document.directory, hpath]
  simp only [Except.bind, Except.map, hbase, Except.mapError]

/-- A run does nothing if the image calls of its program give no texts. -/
theorem idles_of_allImageTexts {path base : Path}
    (hplace : placeOf world document = .ok (path, base))
    (htexts : Call.allImageTexts (t.factoryNames program) program = []) :
    ∃ report, (∀ turns, runInTurns t draws turns world document program = some report) ∧
      run t draws world document program = some report ∧ Idles world program report := by
  have hplan : (t.planOf program base).images = [] := by
    rw [planOf, Plan.ofProgram, htexts]
    rfl
  obtain ⟨turns, hturns⟩ := exists_runInTurns_eq t draws world document program
  have hrun (turns : List Cache.Turn) : runInTurns t draws turns world document program =
      some (Report.begun world document program path) := runInTurns_of_images_nil hplace hplan
  exact ⟨_, hrun, hturns.symm.trans (hrun turns), ⟨rfl, rfl, rfl, rfl, rfl, rfl⟩⟩

/-- A run of what came of a run does nothing. It finds the factories that the first run found, but
no image call with a text to replace. This holds of every document with a path, of all files and of
every way to fetch images, as long as the pattern of the factories is the same, and in whatever
turns the stores of either run may take their steps; a run that is computed is one of these. A
relative directory has to have a working directory to be read from. -/
theorem run_is_idempotent {kind : String} {body : List Tree}
    (hprogram : program.IsProgram kind body) (hbare : Rewrite.BareTexts program)
    (hrun : runInTurns t draws turns world document program = some report)
    (hok : report.result = .ok ()) :
    t.factoryNames report.program = t.factoryNames program ∧
      Call.allImageTexts (t.factoryNames report.program) report.program = [] ∧
      ∀ (again : Transform) (draws : Draws) (world : World) (document : Document) (first : Path),
        again.factoryPattern = t.factoryPattern →
        document.history.head? = some first → first.isEmpty = false →
        ((first.parent?.getD ⟨[]⟩).isAbsolute = true ∨ world.workingDirectory.isSome = true) →
        ∃ second, (∀ turns,
            runInTurns again draws turns world document report.program = some second) ∧
          run again draws world document report.program = some second ∧
          Idles world report.program second := by
  have hnames := factoryNames_of_ok hprogram hbare hrun hok
  have htexts : Call.allImageTexts (t.factoryNames report.program) report.program = [] := by
    rw [hnames]
    exact allImageTexts_of_ok hprogram hrun hok
  refine ⟨hnames, htexts, fun again draws world document first hpattern hfirst hnonempty
    hanchored => ?_⟩
  have hsame : again.factoryNames report.program = t.factoryNames report.program := by
    rw [factoryNames, factoryNames, hpattern]
  obtain ⟨base, hplace⟩ := exists_placeOf hfirst hnonempty hanchored
  exact idles_of_allImageTexts hplace (hsame ▸ htexts)

/-- A module in which two calls, one inside of the other, draw one image is run twice. -/
theorem run_is_idempotent_nested :
    ∃ report second,
      run (offline "/c" 'j') .counted .withImage (.ofPath (.ofText "/p/index.md")) .nestedImages =
        some report ∧ report.result = .ok () ∧
      factoryNames (offline "/c" 'j') report.program = ["jsx"] ∧
      run (offline "/c" 'j') .counted report.world (.ofPath (.ofText "/p/index.md"))
        report.program = some second ∧ Idles report.world report.program second := by
  have hbare : Rewrite.BareTexts .nestedImages := by
    unfold Rewrite.BareTexts
    decide +kernel
  obtain ⟨turns, report, hturns, hrun, hok⟩ := exists_of_succeeds succeeds_nestedImages
  obtain ⟨hnames, -, hagain⟩ := run_is_idempotent Tree.isProgram_nestedImages hbare hturns hok
  obtain ⟨second, -, hsecond, hidles⟩ := hagain (offline "/c" 'j') .counted report.world
    (.ofPath (.ofText "/p/index.md")) (.ofText "/p/index.md") rfl rfl (by decide)
    (Or.inl (by decide))
  exact ⟨report, second, hrun, hok, hnames.trans factoryNames_nestedImages, hsecond, hidles⟩

/-- The document of the second run is given by a bare name while the working directory is gone. The
run fails, although nothing is left to do. -/
theorem run_again_without_directory :
    ∃ report second,
      run (offline "/c" 'j') .counted .withImage (.ofPath (.ofText "/p/index.md")) .nestedImages =
        some report ∧ report.result = .ok () ∧ Path.isEmpty (.ofText "index.md") = false ∧
      run (offline "/c" 'j') .counted .withImage (.ofPath (.ofText "index.md")) report.program =
        some second ∧ second.result = .error (.workingDirectory .notFound) := by
  obtain ⟨_, report, -, hrun, hok⟩ := exists_of_succeeds succeeds_nestedImages
  exact ⟨report, _, hrun, hok, by decide, rfl, rfl⟩

end ImageImports.Transform
