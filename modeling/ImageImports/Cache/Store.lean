import ImageImports.Cache.Basic

/-!
# Storing images

A store takes several steps, and the steps of other stores may come between them. The bytes are
written to a file of their own, which is then moved to its path, so no path ever shows a part of
them. Every step may fail, and then the file that was written is taken away.

## Main definitions

* `Cache.Stage`: the step that a store takes next.
* `Cache.Storing`: a store on its way.
* `Cache.Fault`: the failure of a step.
* `Cache.Storing.step`: one step of a store.
* `Cache.Storing.finish`: all steps that are left, with nothing between them.
* `Cache.store`: a store from start to end.
-/

namespace ImageImports.Cache

/-- The step that a store takes next: look for the file, create one of its own, write it, move it,
take it away after a failure, or none. At the end it is known whether a file was written. -/
inductive Stage where
  | check
  | create
  | write
  | rename
  | discard (cause : FileError)
  | done (result : Except FileError Bool)

/-- How many steps may follow. -/
def Stage.rank : Stage → Nat
  | .check => 5
  | .create => 4
  | .write => 3
  | .rename => 2
  | .discard _ => 1
  | .done _ => 0

/-- The result of a store that has ended. -/
def Stage.result? : Stage → Option (Except FileError Bool)
  | .done result => some result
  | _ => none

theorem Stage.rank_pos {stage : Stage} (h : stage.result? = none) : 0 < stage.rank := by
  cases stage <;> simp_all [Stage.result?, Stage.rank]

/-- A store on its way: where the bytes belong, the file that they are written to first, and the
next step. -/
structure Storing where
  target : Path
  bytes : ByteArray
  temp : Path
  stage : Stage

/-- The failure of a step, and how many bytes it had written. -/
structure Fault where
  cause : FileError
  written : Nat

namespace Storing

/-- The store at another stage. -/
def moveTo (s : Storing) (stage : Stage) : Storing := { s with stage := stage }

/-- The look for a file that can be kept: it has the length of the bytes. A look that fails finds
none. -/
def check (skipExisting : Bool) (fault : Option Fault) (s : Storing) (files : FileSystem) :
    Stage :=
  if skipExisting && fault.isNone && files.hasFile s.target s.bytes.size then .done (.ok false)
  else .create

/-- A step that changes files: it goes on to a stage, or to the removal of what was written. -/
def proceed (s : Storing) (files : FileSystem) (next : Stage) :
    Except FileError FileSystem → Storing × FileSystem
  | .ok changed => (s.moveTo next, changed)
  | .error cause => (s.moveTo (.discard cause), files)

/-- The files after a write that fails on the way. -/
def writePart (s : Storing) (files : FileSystem) (written : Nat) : FileSystem :=
  (files.write s.temp (s.bytes.extract 0 written)).toOption.getD files

/-- One step of a store, which may be made to fail. To take a file away does not fail if it is
there, and does nothing if it is not. -/
def step (skipExisting : Bool) (fault : Option Fault) (s : Storing) (files : FileSystem) :
    Storing × FileSystem :=
  match s.stage with
  | .check => (s.moveTo (s.check skipExisting fault files), files)
  | .create =>
    match fault with
    | some f => (s.moveTo (.discard f.cause), files)
    | none => s.proceed files .write (files.create s.temp)
  | .write =>
    match fault with
    | some f => (s.moveTo (.discard f.cause), s.writePart files f.written)
    | none => s.proceed files .rename (files.write s.temp s.bytes)
  | .rename =>
    match fault with
    | some f => (s.moveTo (.discard f.cause), files)
    | none => s.proceed files (.done (.ok true)) (files.rename s.temp s.target)
  | .discard cause =>
    (s.moveTo (.done (.error cause)), (files.remove s.temp).toOption.getD files)
  | .done _ => (s, files)

theorem rank_step_lt (skipExisting : Bool) (fault : Option Fault) (s : Storing)
    (files : FileSystem) (h : 0 < s.stage.rank) :
    (s.step skipExisting fault files).1.stage.rank < s.stage.rank := by
  obtain ⟨target, bytes, temp, stage⟩ := s
  cases stage with
  | check =>
    simp only [step, moveTo, check]
    split <;> simp [Stage.rank]
  | create =>
    cases fault with
    | some f => simp [step, moveTo, Stage.rank]
    | none => simp only [step, proceed]; split <;> simp [moveTo, Stage.rank]
  | write =>
    cases fault with
    | some f => simp [step, moveTo, Stage.rank]
    | none => simp only [step, proceed]; split <;> simp [moveTo, Stage.rank]
  | rename =>
    cases fault with
    | some f => simp [step, moveTo, Stage.rank]
    | none => simp only [step, proceed]; split <;> simp [moveTo, Stage.rank]
  | discard cause => simp [step, moveTo, Stage.rank]
  | done result => simp [Stage.rank] at h

/-- All steps that are left, none of which is made to fail. There are no more of them than the rank
of the stage tells. -/
def finishWithin (skipExisting : Bool) (steps : Nat) (s : Storing) (h : s.stage.rank ≤ steps)
    (files : FileSystem) : FileSystem × Except FileError Bool :=
  match hresult : s.stage.result? with
  | some result => (files, result)
  | none =>
    match steps, h with
    | 0, h => absurd h (Nat.not_le_of_lt (Stage.rank_pos hresult))
    | steps + 1, h =>
      let next := s.step skipExisting none files
      have hnext := rank_step_lt skipExisting none s files (Stage.rank_pos hresult)
      finishWithin skipExisting steps next.1 (Nat.le_of_lt_succ (Nat.lt_of_lt_of_le hnext h)) next.2
  termination_by structural steps

/-- All steps that are left, with nothing between them. -/
def finish (skipExisting : Bool) (s : Storing) (files : FileSystem) :
    FileSystem × Except FileError Bool :=
  finishWithin skipExisting s.stage.rank s (Nat.le_refl _) files

end Storing

/-- A store before its first step. -/
def storing (c : Cache) (target : Path) (bytes : ByteArray) (draw : Uuid) : Storing :=
  ⟨target, bytes, c.tempPath draw, .check⟩

/-- Puts bytes at a path, and tells whether a file was written or one that is there was kept. -/
def store (c : Cache) (target : Path) (bytes : ByteArray) (draw : Uuid) (files : FileSystem) :
    FileSystem × Except TransformError Bool :=
  let (files, result) := (c.storing target bytes draw).finish c.skipExisting files
  (files, result.mapError (.writeFailed target))

end ImageImports.Cache
