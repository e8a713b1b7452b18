import ImageImports.Proofs.Cache.Steps

/-!
# Stores that take turns

Stores that are on their way at one time share the files. In every turn one of them takes its next
step, which may be made to fail. Whatever the turns are, a store has its own file until it moves
it, so every place where no store writes first holds what it held before or all bytes of a store
that belong there.

## Main definitions

* `Cache.Turn`, `Cache.Progress`: a turn, and the stores with their files.
* `Cache.Progress.turns`: the progress after several turns.
* `Cache.Apart`: stores that do not write to one file.
* `Cache.Holds`, `Cache.Fills`: what a place holds, and what a store that succeeds has at its place.
* `Cache.Obeys`, `Cache.Sound`: what is kept by every turn.

## Main results

* `Cache.Sound.turn`, `Cache.Sound.turns`: one turn and all turns keep it.
* `Cache.Progress.isSome_resultAt?_turns`: after five turns a store has returned.
-/

namespace ImageImports.Cache

open FileSystem

/-- A turn of the store at a position. Its next step may be made to fail. -/
structure Turn where
  position : Nat
  fault : Option Fault

/-- Stores on their way, and the files that they share. -/
structure Progress where
  stores : List Storing
  files : FileSystem

namespace Progress

/-- The progress after a turn. A turn of no store changes nothing. -/
def turn (skipExisting : Bool) (p : Progress) (t : Turn) : Progress :=
  match p.stores[t.position]? with
  | none => p
  | some s =>
    ⟨p.stores.set t.position (s.step skipExisting t.fault p.files).1,
      (s.step skipExisting t.fault p.files).2⟩

/-- The progress after several turns. -/
def turns (skipExisting : Bool) (p : Progress) (ts : List Turn) : Progress :=
  ts.foldl (turn skipExisting) p

/-- The result of the store at a position, if it has returned. -/
def resultAt? (p : Progress) (position : Nat) : Option (Except FileError Bool) :=
  p.stores[position]?.bind fun s => s.stage.result?

theorem length_turn (skipExisting : Bool) (p : Progress) (t : Turn) :
    (p.turn skipExisting t).stores.length = p.stores.length := by
  rw [turn]
  split
  next => rfl
  next => exact List.length_set

theorem length_turns (skipExisting : Bool) (p : Progress) (ts : List Turn) :
    (p.turns skipExisting ts).stores.length = p.stores.length := by
  induction ts generalizing p with
  | nil => rfl
  | cons t rest ih => exact (ih _).trans (p.length_turn skipExisting t)

end Progress

/-! ### What the turns keep -/

/-- Stores that are apart: no two write first to one file, and no bytes belong where a store writes
first. -/
structure Apart (files : FileSystem) (calls : List Storing) : Prop where
  temp : ∀ (i j : Nat) call other place, calls[i]? = some call → calls[j]? = some other →
    files.locate call.temp = .ok place → files.locate other.temp = .ok place → i = j
  target : ∀ call ∈ calls, ∀ other ∈ calls, ∀ place, files.locate call.target = .ok place →
    files.locate other.temp ≠ .ok place

/-- What a place holds when stores have taken turns: what it held before, or all bytes of a store
that belong there. -/
inductive Holds (calls : List Storing) (before files : FileSystem) (place : Location) : Prop
  | same (h : files.entryAt? place = before.entryAt? place)
  | stored (call : Storing) (hmem : call ∈ calls) (hplace : before.locate call.target = .ok place)
      (h : files.entryAt? place = some (.file call.bytes))

/-- What a store that succeeds has at the place of its bytes: a file of their length that was kept,
or all bytes of a store that belong there. -/
inductive Fills (skipExisting : Bool) (calls : List Storing) (before files : FileSystem)
    (call : Storing) : Prop
  | kept (place : Location) (hplace : before.locate call.target = .ok place)
      (hskip : skipExisting = true)
      (hfile : before.hasFile call.target call.bytes.size = true)
      (h : files.entryAt? place = before.entryAt? place)
  | stored (place : Location) (hplace : before.locate call.target = .ok place) (other : Storing)
      (hmem : other ∈ calls) (hother : before.locate other.target = .ok place)
      (h : files.entryAt? place = some (.file other.bytes))

/-- What a stage tells of the file that is written first: nothing is done yet, all bytes are in it,
or the file is gone. -/
def Stage.Allows (bytes : ByteArray) (old now : Option Entry) : Stage → Prop
  | .check | .create => now = old
  | .write | .discard _ => True
  | .rename => now = some (.file bytes)
  | .done _ => now = none ∨ now = old

/-- What holds of a store at a stage. -/
structure Obeys (skipExisting : Bool) (calls : List Storing) (before files : FileSystem)
    (call : Storing) (stage : Stage) : Prop where
  temp : ∀ place, before.locate call.temp = .ok place →
    stage.Allows call.bytes (before.entryAt? place) (files.entryAt? place)
  target : ∀ written, stage = .done (.ok written) → Fills skipExisting calls before files call

/-- What every turn keeps: the directories, what each place holds, and what the stages tell. -/
structure Sound (skipExisting : Bool) (calls : List Storing) (before : FileSystem) (p : Progress) :
    Prop where
  directories : before.SameDirectories p.files
  length : p.stores.length = calls.length
  entry : ∀ place, (∀ call ∈ calls, before.locate call.temp ≠ .ok place) →
    Holds calls before p.files place
  store : ∀ (i : Nat) call, calls[i]? = some call → ∃ stage,
    p.stores[i]? = some (call.moveTo stage) ∧
      Obeys skipExisting calls before p.files call stage

/-! ### One step -/

section

variable {skipExisting : Bool} {calls : List Storing} {before files after : FileSystem}
  {call other next : Storing} {stage otherStage : Stage}

/-- What the step of a store leaves at a place: what was there, something at the place of the file
that is written first, or all its bytes where they belong. -/
theorem Obeys.entryAt?_of_takes (hdirectories : before.SameDirectories files)
    (hcall : Obeys skipExisting calls before files call stage)
    (htakes : (call.moveTo stage).Takes skipExisting files next after) (place : Location) :
    after.entryAt? place = files.entryAt? place ∨ before.locate call.temp = .ok place ∨
      before.locate call.target = .ok place ∧ after.entryAt? place = some (.file call.bytes) := by
  rcases htakes.entryAt? place with hsame | htemp | ⟨hstage, htarget, temp, htemp, hmoved⟩
  · exact Or.inl hsame
  · exact Or.inr (Or.inl ((locate_eq_ok_iff hdirectories).mpr htemp))
  · refine Or.inr (Or.inr ⟨(locate_eq_ok_iff hdirectories).mpr htarget, ?_⟩)
    have hallows := hcall.temp temp ((locate_eq_ok_iff hdirectories).mpr htemp)
    rw [show stage = .rename from hstage] at hallows
    rw [hmoved, show files.entryAt? temp = _ from hallows]

/-- A place where no store writes first holds what it may hold after the step of a store. -/
theorem Holds.of_takes (hdirectories : before.SameDirectories files) (hmem : call ∈ calls)
    (hcall : Obeys skipExisting calls before files call stage)
    (htakes : (call.moveTo stage).Takes skipExisting files next after) {place : Location}
    (htemp : before.locate call.temp ≠ .ok place) (h : Holds calls before files place) :
    Holds calls before after place := by
  rcases hcall.entryAt?_of_takes hdirectories htakes place with hsame | habsurd | ⟨htarget, hnew⟩
  · cases h with
    | same hold => exact .same (hsame.trans hold)
    | stored other hother hplace hold => exact .stored other hother hplace (hsame.trans hold)
  · exact absurd habsurd htemp
  · exact .stored call hmem htarget hnew

/-- A store that succeeded has a file at its place after the step of a store. -/
theorem Fills.of_takes (hdirectories : before.SameDirectories files) (hapart : Apart before calls)
    (hmem : call ∈ calls) (hother : other ∈ calls)
    (hobeys : Obeys skipExisting calls before files other stage)
    (htakes : (other.moveTo stage).Takes skipExisting files next after)
    (h : Fills skipExisting calls before files call) :
    Fills skipExisting calls before after call := by
  have hplaces := hobeys.entryAt?_of_takes hdirectories htakes
  cases h with
  | kept place hplace hskip hfile hold =>
    rcases hplaces place with hsame | habsurd | ⟨htarget, hnew⟩
    · exact .kept place hplace hskip hfile (hsame.trans hold)
    · exact absurd habsurd (hapart.target call hmem other hother place hplace)
    · exact .stored place hplace other hother htarget hnew
  | stored place hplace last hlast hlastPlace hold =>
    rcases hplaces place with hsame | habsurd | ⟨htarget, hnew⟩
    · exact .stored place hplace last hlast hlastPlace (hsame.trans hold)
    · exact absurd habsurd (hapart.target call hmem other hother place hplace)
    · exact .stored place hplace other hother htarget hnew

/-- What holds of a store holds after the step of another one. -/
theorem Obeys.of_takes_other (hdirectories : before.SameDirectories files)
    (hapart : Apart before calls) {i j : Nat} (hi : calls[i]? = some call)
    (hj : calls[j]? = some other) (hne : i ≠ j)
    (hother : Obeys skipExisting calls before files other otherStage)
    (htakes : (other.moveTo otherStage).Takes skipExisting files next after)
    (h : Obeys skipExisting calls before files call stage) :
    Obeys skipExisting calls before after call stage where
  temp := by
    intro place hplace
    rcases hother.entryAt?_of_takes hdirectories htakes place with hsame | htemp | ⟨htarget, -⟩
    · rw [hsame]
      exact h.temp place hplace
    · exact absurd (hapart.temp i j call other place hi hj hplace htemp) hne
    · exact absurd hplace (hapart.target other (List.mem_of_getElem? hj) call
        (List.mem_of_getElem? hi) place htarget)
  target := fun written hdone => (h.target written hdone).of_takes hdirectories hapart
    (List.mem_of_getElem? hi) (List.mem_of_getElem? hj) hother htakes

/-- A file that is kept is there from the start, or it was stored in the meantime. -/
theorem fills_of_hasFile (hdirectories : before.SameDirectories files)
    (hapart : Apart before calls) (hmem : call ∈ calls)
    (hentry : ∀ place, (∀ other ∈ calls, before.locate other.temp ≠ .ok place) →
      Holds calls before files place)
    (hskip : skipExisting = true)
    (hfile : files.hasFile call.target call.bytes.size = true) :
    Fills skipExisting calls before files call := by
  obtain ⟨place, found, hplace, hfound, hsize⟩ := hasFile_iff.mp hfile
  have hplace := (locate_eq_ok_iff hdirectories).mpr hplace
  cases hentry place fun other hother => hapart.target call hmem other hother place hplace with
  | same hsame =>
    exact .kept place hplace hskip
      (hasFile_iff.mpr ⟨place, found, hplace, hsame ▸ hfound, hsize⟩) hsame
  | stored other hother hotherPlace hstored =>
    exact .stored place hplace other hother hotherPlace hstored

/-- What holds of a store holds after its own step. -/
theorem Obeys.of_takes (hdirectories : before.SameDirectories files) (hapart : Apart before calls)
    (hmem : call ∈ calls)
    (hentry : ∀ place, (∀ other ∈ calls, before.locate other.temp ≠ .ok place) →
      Holds calls before files place)
    (htakes : (call.moveTo stage).Takes skipExisting files next after)
    (h : Obeys skipExisting calls before files call stage) :
    Obeys skipExisting calls before after call next.stage := by
  have hlocate {p : Path} {place : Location} : before.locate p = .ok place ↔
      files.locate p = .ok place := locate_eq_ok_iff hdirectories
  have hsame := h.temp
  cases htakes with
  | keep hstage hskip hfile =>
    obtain rfl : stage = .check := hstage
    exact ⟨fun place hplace => Or.inr (hsame place hplace),
      fun _ _ => fills_of_hasFile hdirectories hapart hmem hentry hskip hfile⟩
  | miss hstage =>
    obtain rfl : stage = .check := hstage
    exact ⟨hsame, by simp [Storing.moveTo]⟩
  | create hstage temp htemp hfree => exact ⟨fun _ _ => trivial, by simp [Storing.moveTo]⟩
  | write hstage temp htemp hfree =>
    refine ⟨fun place hplace => ?_, by simp [Storing.moveTo]⟩
    obtain rfl : temp = place := Except.ok.inj (htemp.symm.trans (hlocate.mp hplace))
    have htop : temp ≠ [] := fun hnil => hfree (by rw [hnil, entryAt?_root])
    change (files.put temp (.file call.bytes)).entryAt? temp = some (.file call.bytes)
    rw [entryAt?_put _ htop, if_pos rfl]
  | writePart hstage f temp htemp hfree => exact ⟨fun _ _ => trivial, by simp [Storing.moveTo]⟩
  | rename hstage temp place found htemp hplace hfound hfree =>
    obtain rfl : stage = .rename := hstage
    have hbytes : files.entryAt? temp = some (.file call.bytes) := hsame temp (hlocate.mpr htemp)
    obtain rfl : call.bytes = found :=
      Entry.file.inj (Option.some.inj (hbytes.symm.trans hfound))
    have htempTop : temp ≠ [] := fun hnil => by simp [hnil] at hfound
    have hplaceTop : place ≠ [] := fun hnil => hfree (by rw [hnil, entryAt?_root])
    have hne : temp ≠ place := fun heq =>
      hapart.target call hmem call hmem place (hlocate.mpr hplace) (heq ▸ hlocate.mpr htemp)
    refine ⟨fun other hother => Or.inl ?_, fun _ _ => .stored place (hlocate.mpr hplace) call hmem
      (hlocate.mpr hplace) ?_⟩
    · obtain rfl : temp = other := Except.ok.inj (htemp.symm.trans (hlocate.mp hother))
      rw [entryAt?_put _ hplaceTop, if_neg hne, entryAt?_erase _ htempTop, if_pos rfl]
    · rw [entryAt?_put _ hplaceTop, if_pos rfl]
  | fail hstage cause => exact ⟨fun _ _ => trivial, by simp [Storing.moveTo]⟩
  | discard cause hstage temp found htemp hfound =>
    refine ⟨fun place hplace => Or.inl ?_, by simp [Storing.moveTo]⟩
    obtain rfl : temp = place := Except.ok.inj (htemp.symm.trans (hlocate.mp hplace))
    have htop : temp ≠ [] := fun hnil => by simp [hnil] at hfound
    rw [entryAt?_erase _ htop, if_pos rfl]
  | leave cause hstage hnone =>
    -- What is no file and is there is a directory, and so it was there before.
    refine ⟨fun place hplace => ?_, by simp [Storing.moveTo]⟩
    cases hfound : files.entryAt? place with
    | none => exact Or.inl rfl
    | some found =>
      cases found with
      | directory => exact Or.inr ((hdirectories place).mpr hfound).symm
      | file bytes => exact absurd hfound (hnone place bytes (hlocate.mp hplace))
  | rest result hstage => exact h

end

/-! ### All turns -/

section

variable {skipExisting : Bool} {calls : List Storing} {before : FileSystem} {p : Progress}

theorem sound_start (hstart : ∀ call ∈ calls, call.stage = .check) :
    Sound skipExisting calls before ⟨calls, before⟩ where
  directories := fun _ => Iff.rfl
  length := rfl
  entry := fun _ _ => .same rfl
  store := by
    intro i call hcall
    have hstage := hstart call (List.mem_of_getElem? hcall)
    refine ⟨.check, ?_, fun _ _ => rfl, by simp⟩
    rw [hcall, Storing.moveTo, ← hstage]

/-- A turn keeps what is sound. -/
theorem Sound.turn (hapart : Apart before calls) (h : Sound skipExisting calls before p)
    (t : Turn) : Sound skipExisting calls before (p.turn skipExisting t) := by
  have hlength := (p.length_turn skipExisting t).trans h.length
  rw [Progress.turn] at hlength ⊢
  cases hfound : p.stores[t.position]? with
  | none => exact h
  | some s =>
    have hlt : t.position < calls.length := by
      rw [← h.length]
      exact (List.getElem?_eq_some_iff.mp hfound).1
    have hcall : calls[t.position]? = some calls[t.position] := List.getElem?_eq_getElem hlt
    have hmem := List.mem_of_getElem? hcall
    obtain ⟨stage, hstore, hobeys⟩ := h.store t.position _ hcall
    obtain rfl := Option.some.inj (hfound.symm.trans hstore)
    have htakes := Storing.takes_step skipExisting t.fault (calls[t.position].moveTo stage) p.files
    dsimp only
    refine ⟨h.directories.trans htakes.sameDirectories, ?_, fun place hplace => ?_,
      fun i call hi => ?_⟩
    · rwa [hfound] at hlength
    · exact (h.entry place hplace).of_takes h.directories hmem hobeys htakes (hplace _ hmem)
    · by_cases hi' : t.position = i
      · subst hi'
        obtain rfl := Option.some.inj (hcall.symm.trans hi)
        refine ⟨_, ?_, hobeys.of_takes h.directories hapart hmem h.entry htakes⟩
        rw [List.getElem?_set_self (h.length ▸ hlt), htakes.eq_moveTo]
        rfl
      · obtain ⟨other, hother, hobeys'⟩ := h.store i call hi
        refine ⟨other, ?_, .of_takes_other h.directories hapart hi hcall (Ne.symm hi') hobeys
          htakes hobeys'⟩
        rw [List.getElem?_set_ne hi', hother]

/-- All turns keep what is sound. -/
theorem Sound.turns (hapart : Apart before calls) (h : Sound skipExisting calls before p)
    (ts : List Turn) : Sound skipExisting calls before (p.turns skipExisting ts) := by
  induction ts generalizing p with
  | nil => exact h
  | cons t rest ih => exact ih (h.turn hapart t)

end

/-! ### Stores return -/

theorem Stage.eq_done_of_result? {stage : Stage} {result : Except FileError Bool}
    (h : stage.result? = some result) : stage = .done result := by
  cases stage with
  | done other => rw [Option.some.inj h]
  | _ => cases h

theorem Storing.step_of_rank (skipExisting : Bool) (fault : Option Fault) {s : Storing}
    (files : FileSystem) (h : s.stage.rank = 0) : (s.step skipExisting fault files).1 = s := by
  unfold step
  cases hstage : s.stage with
  | done result => rfl
  | _ => simp [hstage, Stage.rank] at h

namespace Progress

variable (skipExisting : Bool)

/-- A turn leaves a store where it was, or brings it one step nearer to its end. -/
theorem getElem?_turn (p : Progress) (t : Turn) (i : Nat) :
    (p.turn skipExisting t).stores[i]? = if t.position = i then
      p.stores[i]?.map fun s => (s.step skipExisting t.fault p.files).1 else p.stores[i]? := by
  by_cases hi : t.position = i
  · subst hi
    rw [if_pos rfl, turn]
    cases hfound : p.stores[t.position]? with
    | none => rw [hfound, Option.map_none]
    | some s => exact List.getElem?_set_self (List.getElem?_eq_some_iff.mp hfound).1
  · rw [if_neg hi, turn]
    split
    next => rfl
    next => exact List.getElem?_set_ne hi

/-- A store has no more steps to take than it had turns less. -/
theorem rank_turns (ts : List Turn) {p : Progress} {i : Nat} {s : Storing}
    (h : p.stores[i]? = some s) :
    ∃ s', (p.turns skipExisting ts).stores[i]? = some s' ∧
      s'.stage.rank ≤ s.stage.rank - (ts.map Turn.position).count i := by
  induction ts generalizing p s with
  | nil => exact ⟨s, h, by simp⟩
  | cons t rest ih =>
    have hturn := p.getElem?_turn skipExisting t i
    rw [h] at hturn
    by_cases hi : t.position = i
    · rw [if_pos hi, Option.map_some] at hturn
      obtain ⟨s', hs', hrank⟩ := ih hturn
      refine ⟨s', hs', ?_⟩
      rw [List.map_cons, hi, List.count_cons_self]
      by_cases hpos : 0 < s.stage.rank
      · have hlt := Storing.rank_step_lt skipExisting t.fault s p.files hpos
        omega
      · have hzero : s.stage.rank = 0 := by omega
        have hstep : (s.step skipExisting t.fault p.files).1 = s :=
          Storing.step_of_rank skipExisting t.fault p.files hzero
        rw [hstep] at hrank
        omega
    · rw [if_neg hi] at hturn
      obtain ⟨s', hs', hrank⟩ := ih hturn
      refine ⟨s', hs', ?_⟩
      rwa [List.map_cons, List.count_cons_of_ne hi]

/-- After five turns a store has returned, whatever the others did. -/
theorem isSome_resultAt?_turns (ts : List Turn) {p : Progress} {i : Nat}
    (hi : i < p.stores.length) (hcount : 5 ≤ (ts.map Turn.position).count i) :
    ((p.turns skipExisting ts).resultAt? i).isSome = true := by
  obtain ⟨s', hs', hrank⟩ := rank_turns skipExisting ts (List.getElem?_eq_getElem hi)
  have hmost : p.stores[i].stage.rank ≤ 5 := by
    cases p.stores[i].stage <;> simp [Stage.rank]
  rw [resultAt?, hs', Option.bind_some]
  cases hresult : s'.stage.result? with
  | some result => rfl
  | none =>
    have hpos := Stage.rank_pos hresult
    omega

end Progress

end ImageImports.Cache
