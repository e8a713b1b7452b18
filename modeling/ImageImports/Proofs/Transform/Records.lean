import ImageImports.Proofs.Names.Fresh
import ImageImports.Proofs.Program.Compiled
import ImageImports.Proofs.Rewrite.Agreement
import ImageImports.Proofs.Transform.Stages

/-!
# Records of images

A run that has resolved and named its images makes one record for each of them, in the order of
the plan. With as many records as images the program can always be rewritten, and so a run fails
for a reason that lies in its surroundings or not at all.

## Main definitions

* `Transform.rewrittenTree`: a program with names in the place of texts.
* `Transform.withImports`: such a program with the imports of its images.
* `Transform.Report.finished`: the report of a run that rewrites its program.
* `Transform.succeeds`: a run has a report without an error.
* `Transform.offline`: a transform that fetches nothing.

## Main results

* `Transform.getElem?_recordsOf`: the record at a position.
* `Transform.rewrite_kept`: a program whose images are stored can be rewritten.
-/

namespace ImageImports

namespace Transform

section

variable (cache : Cache)

/-- The record at a position is made of the image, the name and the bytes at that position. -/
theorem getElem?_recordsOf (images : List PlannedImage) (locals : List String)
    (contents : List ByteArray) (i : Nat) :
    (recordsOf cache images locals contents)[i]? =
      images[i]?.bind fun image => locals[i]?.bind fun name => contents[i]?.map fun bytes =>
        ⟨name, cache.pathFor bytes image.extension, bytes⟩ := by
  induction images generalizing locals contents i with
  | nil => simp [recordsOf]
  | cons image images ih =>
    rcases locals with _ | ⟨name, locals⟩
    · cases h : (image :: images)[i]? <;> simp [recordsOf]
    · rcases contents with _ | ⟨bytes, contents⟩
      · cases h : (image :: images)[i]? <;> cases h' : (name :: locals)[i]? <;> simp [recordsOf]
      · cases i with
        | zero => simp [recordsOf]
        | succ i => simp [recordsOf, ih]

variable {images : List PlannedImage} {locals : List String} {contents : List ByteArray}

theorem length_recordsOf (hlocals : locals.length = images.length)
    (hcontents : contents.length = images.length) :
    (recordsOf cache images locals contents).length = images.length := by
  induction images generalizing locals contents with
  | nil => rw [recordsOf] <;> simp
  | cons image images ih =>
    rcases locals with _ | ⟨name, locals⟩
    · simp at hlocals
    · rcases contents with _ | ⟨bytes, contents⟩
      · simp at hcontents
      · rw [recordsOf, List.length_cons, List.length_cons,
          ih (Nat.succ.inj hlocals) (Nat.succ.inj hcontents)]

theorem map_name_recordsOf (hlocals : locals.length = images.length)
    (hcontents : contents.length = images.length) :
    (recordsOf cache images locals contents).map Record.name = locals := by
  induction images generalizing locals contents with
  | nil => simp [recordsOf, List.length_eq_zero_iff.mp hlocals]
  | cons image images ih =>
    rcases locals with _ | ⟨name, locals⟩
    · simp at hlocals
    · rcases contents with _ | ⟨bytes, contents⟩
      · simp at hcontents
      · rw [recordsOf, List.map_cons, ih (Nat.succ.inj hlocals) (Nat.succ.inj hcontents)]

end

variable {t : Transform} {draws : Draws} {world : World} {document : Document} {program : Tree}

theorem Named.length_locals {plan : Plan} {contents : List ByteArray} {locals : List String}
    (h : t.Named draws world program plan contents locals) :
    locals.length = plan.images.length :=
  NameSupply.length_take? h.named

theorem named_nil {plan : Plan} (h : plan.images = []) :
    t.Named draws world program plan [] [] :=
  ⟨by rw [h]; rfl, by rw [h]; rfl⟩

variable (t program) in
/-- A program in which every text of an image call is replaced by the name of its image. -/
def rewrittenTree (plan : Plan) (locals : List String) : Tree :=
  (Rewrite.rewrite (t.factoryNames program) (Rewrite.bindingsOf plan locals) program).tree

variable (t program) in
/-- A program in which the texts of image calls are replaced, with the imports of the images before
it, and the warnings about these. -/
def withImports (plan : Plan) (contents : List ByteArray) (locals : List String) :
    Tree × List Warning :=
  Import.inject ((recordsOf t.cache plan.images locals contents).map Record.toImport)
    (t.rewrittenTree program plan locals)

variable (t world document program) in
/-- The report of a run that rewrites its program, when its stores have left some files. -/
def Report.finished (plan : Plan) (path : Path) (contents : List ByteArray)
    (locals : List String) (files : FileSystem) (stores : List (Except TransformError Bool)) :
    Report :=
  let kept := Report.kept t world document program plan path files stores
  { kept with
    program := (t.withImports program plan contents locals).1
    warnings := kept.warnings ++ (t.withImports program plan contents locals).2 }

variable (t world document program) in
@[simp] theorem Report.program_finished (plan : Plan) (path : Path) (contents : List ByteArray)
    (locals : List String) (files : FileSystem) (stores : List (Except TransformError Bool)) :
    (Report.finished t world document program plan path contents locals files stores).program =
      (t.withImports program plan contents locals).1 :=
  rfl

/-- With all images resolved and named, the program can be rewritten. -/
theorem rewrite_kept {base path : Path} {contents : List ByteArray} {locals : List String}
    (hnamed : t.Named draws world program (t.planOf program base) contents locals)
    (files : FileSystem) (stores : List (Except TransformError Bool)) :
    rewrite (t.factoryNames program) (t.planOf program base)
        (recordsOf t.cache (t.planOf program base).images locals contents)
        (Report.kept t world document program (t.planOf program base) path files stores) =
      Report.finished t world document program (t.planOf program base) path contents locals files
        stores := by
  have hnames : (recordsOf t.cache (t.planOf program base).images locals contents).map
      Record.name = locals :=
    map_name_recordsOf t.cache hnamed.length_locals hnamed.length_contents
  have hprogram : (Report.kept t world document program (t.planOf program base) path files
      stores).program = program := rfl
  have happly : Rewrite.apply (t.factoryNames program) (t.planOf program base) locals program =
      (t.rewrittenTree program (t.planOf program base) locals,
        .ok (Call.allImageTexts (t.factoryNames program) program).length) :=
    Rewrite.apply_ofProgram hnamed.length_locals
  rw [rewrite, hnames, hprogram, happly]
  rfl

variable (t draws world document program) in
/-- The run for a document succeeds. -/
def succeeds : Bool := (run t draws world document program).any fun report => report.result.isOk

/-! ### A run without a network -/

/-- A transform that fetches nothing. Every name with the given letter is that of a factory. -/
def offline (directory : String) (letter : Char) : Transform where
  cache := ⟨.ofText directory, .hex, true⟩
  ascii := .ofAscii
  fetcher :=
    ⟨fun url _ => ⟨.zero, .error (Transport.refusal url)⟩, .ofStatuses 0 (.fixed .zero) [],
      fun time => ⟨time.nanos⟩⟩
  factoryPattern := ⟨.chars (.single letter)⟩
  identifiers := .counter
  timeout := none

/-- Identifiers that are not random at all. -/
def Draws.counted : Draws := ⟨[], fun n => ⟨Vector.replicate 16 n.toUInt8⟩⟩

end Transform

/-- A world with an empty cache, in which the directory `p` holds an image. -/
def World.withImage : World where
  files := ⟨[(["c"].map Utf8.encode, .directory), (["p"].map Utf8.encode, .directory),
    (["p", "logo.png"].map Utf8.encode, .file ⟨#[1]⟩)]⟩
  workingDirectory := none
  time := .zero
  asked := fun _ => 0

namespace Transform

theorem factoryNames_nestedImages : factoryNames (offline "/c" 'j') .nestedImages = ["jsx"] := by
  decide +kernel

theorem images_nestedImages : (planOf (offline "/c" 'j') .nestedImages (.ofText "/p")).images =
    [⟨"logo.png", .local (.ofText "/p/logo.png"), ".png"⟩] := by
  have htexts : Call.allImageTexts ["jsx"] .nestedImages = ["logo.png", "./logo.png"] := by
    decide +kernel
  rw [planOf, Plan.ofProgram, factoryNames_nestedImages, htexts]
  decide +kernel

theorem placeOf_withImage :
    placeOf .withImage (.ofPath (.ofText "/p/index.md")) =
      .ok (.ofText "/p/index.md", .ofText "/p") := rfl

theorem succeeds_nestedImages :
    succeeds (offline "/c" 'j') .counted .withImage (.ofPath (.ofText "/p/index.md"))
      .nestedImages = true := by
  decide +kernel

end Transform

end ImageImports
