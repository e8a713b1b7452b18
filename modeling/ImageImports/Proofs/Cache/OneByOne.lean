import ImageImports.Proofs.Cache.Turns

/-!
# Stores one after another

Stores that are finished one after another take turns as well: five turns for each store, none of
which is made to fail. Such turns of a store, with none of another store between them, do what is
left of the store to do.

## Main definitions

* `Cache.Turn.oneByOne`: the turns in which some stores are finished one after another.
* `Cache.Progress.results?`: the results of stores that have all returned.

## Main results

* `Cache.Storing.finish_step`: the steps that are left are one step and those after it.
* `Cache.Progress.turns_replicate`: enough turns of one store finish it.
-/

namespace ImageImports.Cache

/-! ### Steps that are left -/

namespace Storing

variable (skipExisting : Bool)

theorem finishWithin_eq (steps other : Nat) (s : Storing) (h : s.stage.rank ≤ steps)
    (h' : s.stage.rank ≤ other) (files : FileSystem) :
    finishWithin skipExisting steps s h files = finishWithin skipExisting other s h' files := by
  induction steps generalizing other s files with
  | zero =>
    unfold finishWithin
    split
    next => rfl
    next hnone =>
      have hpos := Stage.rank_pos hnone
      omega
  | succ steps ih =>
    unfold finishWithin
    split
    next => rfl
    next hnone =>
      cases other with
      | zero =>
        have hpos := Stage.rank_pos hnone
        omega
      | succ other => exact ih other _ _ _ _

theorem finish_of_result {s : Storing} {result : Except FileError Bool}
    (h : s.stage.result? = some result) (files : FileSystem) :
    s.finish skipExisting files = (files, result) := by
  unfold finish finishWithin
  split
  next found heq => rw [Option.some.inj (heq.symm.trans h)]
  next hnone => rw [hnone] at h; cases h

/-- The steps that are left are one step and those after it. -/
theorem finish_step {s : Storing} (h : s.stage.result? = none) (files : FileSystem) :
    s.finish skipExisting files = (s.step skipExisting none files).1.finish skipExisting
      (s.step skipExisting none files).2 := by
  have hpos := Stage.rank_pos h
  rw [finish, finishWithin_eq skipExisting _ (s.stage.rank - 1 + 1) s (Nat.le_refl _) (by omega)]
  unfold finishWithin
  split
  next found heq => rw [h] at heq; cases heq
  next => exact finishWithin_eq skipExisting _ _ _ _ (Nat.le_refl _) _

end Storing

/-! ### Turns -/

/-- Turns in which some stores are finished one after another, from a position on. -/
def Turn.oneByOne (first count : Nat) : List Turn :=
  (List.range' first count).flatMap fun i => List.replicate 5 ⟨i, none⟩

theorem Turn.fault_of_mem_oneByOne {first count : Nat} {turn : Turn}
    (h : turn ∈ oneByOne first count) : turn.fault = none := by
  obtain ⟨i, -, hturn⟩ := List.mem_flatMap.mp h
  rw [List.eq_of_mem_replicate hturn]

theorem Turn.mem_map_position_oneByOne {i count : Nat} (h : i < count) :
    i ∈ (Turn.oneByOne 0 count).map Turn.position := by
  refine List.mem_map.mpr ⟨⟨i, none⟩, List.mem_flatMap.mpr ⟨i, ?_, ?_⟩, rfl⟩
  · exact List.mem_range'_1.mpr ⟨Nat.zero_le i, by omega⟩
  · exact List.mem_replicate.mpr ⟨by decide, rfl⟩

namespace Progress

/-- The results of all stores, if all have returned. -/
def results? (p : Progress) : Option (List (Except FileError Bool)) :=
  p.stores.mapM fun s => s.stage.result?

variable (skipExisting : Bool)

theorem turns_append (p : Progress) (ts us : List Turn) :
    p.turns skipExisting (ts ++ us) = (p.turns skipExisting ts).turns skipExisting us :=
  List.foldl_append

/-- A store that has returned changes nothing any more. -/
theorem turns_replicate_of_result {p : Progress} {i : Nat} {s : Storing}
    {result : Except FileError Bool} (hs : p.stores[i]? = some s)
    (hresult : s.stage.result? = some result) (n : Nat) :
    p.turns skipExisting (List.replicate n ⟨i, none⟩) =
      ⟨p.stores.set i s, (s.finish skipExisting p.files).1⟩ := by
  obtain ⟨hi, rfl⟩ := List.getElem?_eq_some_iff.mp hs
  rw [Storing.finish_of_result skipExisting hresult, List.set_getElem_self]
  induction n with
  | zero => rfl
  | succ n ih =>
    have hturn : p.turn skipExisting ⟨i, none⟩ = p := by
      have hstep : (p.stores[i]).step skipExisting none p.files = (p.stores[i], p.files) := by
        unfold Storing.step
        rw [Stage.eq_done_of_result? hresult]
      rw [turn, hs]
      dsimp only
      rw [hstep, List.set_getElem_self]
    rw [List.replicate_succ, turns, List.foldl_cons, hturn]
    exact ih

/-- Enough turns of one store, with none of another between them, finish it. -/
theorem turns_replicate {n : Nat} {p : Progress} {i : Nat} {s : Storing}
    (hs : p.stores[i]? = some s) (hrank : s.stage.rank ≤ n) :
    ∃ last : Storing, last.stage = .done (s.finish skipExisting p.files).2 ∧
      p.turns skipExisting (List.replicate n ⟨i, none⟩) =
        ⟨p.stores.set i last, (s.finish skipExisting p.files).1⟩ := by
  induction n generalizing p s with
  | zero =>
    obtain ⟨result, hresult⟩ : ∃ result, s.stage.result? = some result :=
      Option.ne_none_iff_exists'.mp fun hnone =>
        Nat.not_lt_of_le hrank (Stage.rank_pos hnone)
    refine ⟨s, ?_, turns_replicate_of_result skipExisting hs hresult 0⟩
    rw [Storing.finish_of_result skipExisting hresult, Stage.eq_done_of_result? hresult]
  | succ n ih =>
    cases hresult : s.stage.result? with
    | some result =>
      refine ⟨s, ?_, turns_replicate_of_result skipExisting hs hresult (n + 1)⟩
      rw [Storing.finish_of_result skipExisting hresult, Stage.eq_done_of_result? hresult]
    | none =>
      have hlt := Storing.rank_step_lt skipExisting none s p.files (Stage.rank_pos hresult)
      have hturn : p.turn skipExisting ⟨i, none⟩ =
          ⟨p.stores.set i (s.step skipExisting none p.files).1,
            (s.step skipExisting none p.files).2⟩ := by
        rw [turn, hs]
      have hnext : (p.turn skipExisting ⟨i, none⟩).stores[i]? =
          some (s.step skipExisting none p.files).1 := by
        rw [hturn]
        exact List.getElem?_set_self (List.getElem?_eq_some_iff.mp hs).1
      obtain ⟨last, hlast, hturns⟩ := ih hnext (by omega)
      have hfiles : (p.turn skipExisting ⟨i, none⟩).files =
          (s.step skipExisting none p.files).2 := by rw [hturn]
      rw [hfiles, ← Storing.finish_step skipExisting hresult] at hlast hturns
      refine ⟨last, hlast, ?_⟩
      rw [List.replicate_succ, turns, List.foldl_cons, ← turns, hturns, hturn, List.set_set]

end Progress

end ImageImports.Cache
