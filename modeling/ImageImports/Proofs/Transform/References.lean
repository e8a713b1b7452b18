import ImageImports.Proofs.Names.Fresh
import ImageImports.Proofs.Rewrite.Imports
import ImageImports.Proofs.Transform.Contents
import ImageImports.Proofs.Transform.Shape

/-!
# References of a rewritten program

A reference is followed from the text in a program to the bytes that a reader of the new program
will find: the text is replaced by a name, one import binds the name to a path, and the file at
that path holds the bytes that come of the source of the text.

## Main definitions

* `Transform.Shows`: a name stands for the image of a reference.

## Main results

* `Transform.bindersOf_withImports`: the import that binds the name of a record.
* `Transform.source_shows_image`: in a rewritten module every reference shows its image.
-/

namespace ImageImports.Transform

open ImageImports.Tree (Position)

variable {t : Transform} {draws : Draws} {turns : List Cache.Turn} {world : World}
  {document : Document} {program : Tree} {report : Report}

/-- The names of the records are none of the program. -/
theorem notMem_boundNames_of_record {plan : Plan} {contents : List ByteArray}
    {locals : List String} (hnamed : t.Named draws world program plan contents locals)
    {record : Record} (hmem : record ∈ recordsOf t.cache plan.images locals contents) :
    record.name ∉ program.boundNames := by
  have hname := List.mem_map_of_mem (f := Record.name) hmem
  rw [map_name_recordsOf t.cache hnamed.length_locals hnamed.length_contents] at hname
  exact (NameSupply.take?_fresh hnamed.named).2 record.name hname

/-- In a module that is rewritten, the name of a record is bound by its own import only. -/
theorem bindersOf_withImports {body : List Tree} {base : Path} {contents : List ByteArray}
    {locals : List String} (hprogram : program.IsProgram "Module" body)
    (hnamed : t.Named draws world program (t.planOf program base) contents locals)
    (hplan : (t.planOf program base).images ≠ []) {record : Record}
    (hmem : record ∈ recordsOf t.cache (t.planOf program base).images locals contents) :
    Import.bindersOf record.name
        (t.withImports program (t.planOf program base) contents locals).1 =
      [record.toImport.declaration] := by
  have hnodup : (((recordsOf t.cache (t.planOf program base).images locals contents).map
      Record.toImport).map Import.name).Nodup := by
    rw [List.map_map]
    have hnames := map_name_recordsOf t.cache hnamed.length_locals hnamed.length_contents
    exact hnames.symm ▸ (NameSupply.take?_fresh hnamed.named).1
  have hkind : (t.rewrittenTree program (t.planOf program base) locals).isKind "Module" = true := by
    rw [isKind_rewrittenTree, hprogram.isKind]
  have hbinders := Import.bindersOf_prepend
    ((recordsOf t.cache (t.planOf program base).images locals contents).map Record.toImport)
    hkind (Rewrite.hasBody_rewrite hprogram.hasBody)
    fun v hv => Rewrite.binds_rewrite (notMem_boundNames_of_record hnamed hmem) hv
  rw [List.map_map] at hbinders
  rw [withImports_eq_prepend hprogram hnamed hplan]
  exact hbinders.trans (congrArg (List.map Import.declaration)
    (Import.filter_name_eq hnodup (List.mem_map_of_mem hmem)))

variable (t world) in
/-- A name stands for the image of a reference when a run has ended. One import declaration binds
the name, to the default export of a path. The path leads to a file that is named by the address of
its bytes and the ending of the image, and these bytes are those that come of a source with the key
of the reference. The import shows the path as a text, so it leads to the file just if the cache
directory is a text. The key shows the path of a source as a text, so if the directory of the
document is one, then the bytes are those that come of the source of the reference itself. -/
structure Shows (report : Report) (base : Path) (reference name : String) (image : PlannedImage)
    (bytes : ByteArray) (file : Path) : Prop where
  declared : Import.bindersOf name report.program = [Import.declaration ⟨name, file.text⟩]
  reached : .ofText file.text = file ↔ t.cache.directory.IsText
  located : file = t.cache.directory.join
    (.ofText (contentHash bytes t.cache.encoding ++ image.extension))
  named : ∃ place, report.world.files.locate file = .ok place ∧
    place.getLast? = some (Utf8.encode (contentHash bytes t.cache.encoding ++ image.extension))
  stored : report.world.files.read file = .ok bytes
  keyed : ∃ first, Plan.keyOf t.ascii base first = Plan.keyOf t.ascii base reference ∧
    t.Obtains world (Source.classify t.ascii first base) bytes
  obtained : base.IsText → t.Obtains world (Source.classify t.ascii reference base) bytes

end ImageImports.Transform
