import ImageImports.Cache.Store
import ImageImports.Document
import ImageImports.Names
import ImageImports.Program.Factory
import ImageImports.Program.Import
import ImageImports.Program.Rewrite
import ImageImports.Transform.Resolve

/-!
# Running a transform

A document's images are resolved, then stored, and only then the program is rewritten. An error
before that leaves the program as it is.

## Main definitions

* `Transform.Draws`: the random identifiers of a run.
* `Transform.Report`: what becomes of a document, and of the world around it.
* `Transform.run`: the run for one document.
-/

namespace ImageImports.Transform

/-- The random identifiers of a run: those for names, and those for files that are written. -/
structure Draws where
  names : List Uuid
  temps : Nat → Uuid

/-- A resolved image: the name that it is bound to, its path in the cache, and its bytes. -/
structure Record where
  name : String
  path : Path
  bytes : ByteArray

/-- The import of an image. -/
def Record.toImport (r : Record) : Import := ⟨r.name, r.path.text⟩

/-- What becomes of a document, and of the world around it. -/
structure Report where
  result : Except TransformError Unit
  program : Tree
  document : Document
  world : World
  resolutions : List (PlannedImage × Resolution)
  stores : List (Except TransformError Bool)
  warnings : List Warning

/-- The report of a run that has done nothing yet. -/
def Report.start (document : Document) (world : World) (program : Tree) : Report :=
  ⟨.ok (), program, document, world, [], [], []⟩

/-- The message that a document is being processed. -/
def processing (path : Path) (history : List Path) : String :=
  let earlier := ", ".intercalate (history.map Path.text)
  s!"Processing {path.text} with history: {earlier}"

/-- All values, or the first error. -/
def firstError {α : Type} : List (Except TransformError α) → Except TransformError (List α)
  | [] => .ok []
  | .error e :: _ => .error e
  | .ok value :: rest => (firstError rest).map (value :: ·)

/-- The records of images that are named and resolved. -/
def recordsOf (cache : Cache) : List PlannedImage → List String → List ByteArray → List Record
  | image :: images, name :: names, bytes :: contents =>
    ⟨name, cache.pathFor bytes image.extension, bytes⟩ :: recordsOf cache images names contents
  | _, _, _ => []

/-- Stores all images, one after another, whatever becomes of each. -/
def storeAll (cache : Cache) (files : FileSystem) (temps : Nat → Uuid) :
    List Record → FileSystem × List (Except TransformError Bool)
  | [] => (files, [])
  | record :: rest =>
    let (files, stored) := cache.store record.path record.bytes (temps 0) files
    let (files, others) := storeAll cache files (fun n => temps (n + 1)) rest
    (files, stored :: others)

/-- Rewrites a program whose images are stored. A script cannot hold the imports: the host is
warned that they are dropped. -/
def rewrite (names : Call.FactoryNames) (plan : Plan) (records : List Record) (report : Report) :
    Report :=
  match Rewrite.apply names plan (records.map Record.name) report.program with
  | (_, .error e) => { report with result := .error e }
  | (rewritten, .ok _) =>
    let (program, warnings) := Import.inject (records.map Record.toImport) rewritten
    { report with program := program, warnings := report.warnings ++ warnings }

/-- Names and stores images that are resolved, and goes on to rewrite the program. -/
def keep (t : Transform) (draws : Draws) (names : Call.FactoryNames) (plan : Plan)
    (contents : List ByteArray) (report : Report) : Option Report :=
  let supply := NameSupply.ofProgram t.identifiers draws.names report.program
  (supply.take? contents.length).map fun locals =>
    let records := recordsOf t.cache plan.images locals contents
    let (files, stores) := storeAll t.cache report.world.files draws.temps records
    let report := { report with world := { report.world with files := files }, stores := stores }
    match firstError stores with
    | .error e => { report with result := .error e }
    | .ok _ => rewrite names plan records report

/-- Resolves the images of a plan, and goes on to keep them. -/
def resolveAll (t : Transform) (draws : Draws) (names : Call.FactoryNames) (plan : Plan)
    (report : Report) : Option Report :=
  let resolutions := plan.images.map fun image => (image, t.resolve report.world image)
  ((resolutions.map Prod.snd).mapM Resolution.result).bind fun results =>
    let report := { report with
      world := report.world.afterAll resolutions
      resolutions := resolutions
      warnings := (resolutions.map Prod.snd).flatMap Resolution.warnings }
    match firstError results with
    | .error e => some { report with result := .error e }
    | .ok contents => keep t draws names plan contents report

/-- The path of a document, and the directory that its references are read from. -/
def placeOf (world : World) (document : Document) : Except TransformError (Path × Path) :=
  document.path.bind fun path =>
    document.directory.bind fun directory =>
      ((directory.anchor world.workingDirectory).mapError .workingDirectory).map (path, ·)

/-- The run for one document. There is no report of a run that comes to no end: where the draws for
names run out, or a fetch panics. -/
def run (t : Transform) (draws : Draws) (world : World) (document : Document) (program : Tree) :
    Option Report :=
  match placeOf world document with
  | .error e => some { Report.start document world program with result := .error e }
  | .ok (path, base) =>
    let report :=
      Report.start (document.addMessage (processing path document.history)) world program
    let names := Factory.names t.factoryPattern.fits program
    let plan := Plan.ofProgram names t.ascii base program
    if plan.isEmpty then some report else resolveAll t draws names plan report

end ImageImports.Transform
