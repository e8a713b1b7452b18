import ImageImports.Names
import Mathlib.Data.Finset.Card
import Mathlib.Data.Finset.Dedup
import Mathlib.Order.Interval.Finset.Nat

/-!
# Fresh names

Every name of a supply is free when it is taken, and it is in use from then on. So the names that
are taken are different from each other and from all names of the program. A search for a number
goes on until a name is free. It comes to an end, since it can pass by no more numbers than there
are names in use.

## Main definitions

* `NameSupply.Searches`: a search for a number, how many candidates it tries, and what it finds.

## Main results

* `NameSupply.Searches.tries_le`: how many candidates a search tries at most.
* `NameSupply.exists_searches`: the number that is found is what the search comes to.
* `NameSupply.used_next?`: the next name is free, and in use afterwards.
* `NameSupply.take?_fresh`: several names are different from each other and free.
* `NameSupply.exists_take?_counter`, `NameSupply.take?_counter`: there are always as many numbered
  names as are asked for, and they do not depend on what is drawn.
-/

namespace ImageImports.NameSupply

theorem counted_injective {m n : Nat} (h : counted m = counted n) : m = n := by
  have hdigits : Nat.toDigits 10 m = Nat.toDigits 10 n := by
    have hchars := congrArg String.toList h
    simpa [counted, Nat.toString_eq_ofList_toDigits] using hchars
  have hnumber : Nat.ofDigitChars 10 (Nat.toDigits 10 m) 0 =
      Nat.ofDigitChars 10 (Nat.toDigits 10 n) 0 := by rw [hdigits]
  rwa [Nat.ofDigitChars_ten_toDigits, Nat.ofDigitChars_ten_toDigits] at hnumber

/-- A search for a number whose name is free. It starts after a number, tries one candidate after
the other, and ends with the first one whose name is free. The parameters are the number it starts
after, how many candidates it tries, and the number it finds. -/
inductive Searches (used : List String) : Nat → Nat → Nat → Prop
  | free {n : Nat} (hfree : counted (n + 1) ∉ used) : Searches used n 1 (n + 1)
  | taken {n tries found : Nat} (htaken : counted (n + 1) ∈ used)
      (hrest : Searches used (n + 1) tries found) : Searches used n (tries + 1) found

variable {used : List String} {n tries found : Nat}

/-- Numbers whose names are all in use are no more than the names in use. -/
theorem card_le_card_used {numbers : Finset Nat} (h : ∀ i ∈ numbers, counted i ∈ used) :
    numbers.card ≤ used.toFinset.card :=
  Finset.card_le_card_of_injOn counted (fun i hi => List.mem_toFinset.mpr (h i hi))
    fun _ _ _ _ => counted_injective

namespace Searches

theorem found_eq (h : Searches used n tries found) : found = n + tries := by
  induction h with
  | free hfree => rfl
  | taken htaken hrest ih => omega

theorem lt_found (h : Searches used n tries found) : n < found := by
  induction h with
  | free hfree => exact Nat.lt_succ_self _
  | taken htaken hrest ih => omega

theorem notMem (h : Searches used n tries found) : counted found ∉ used := by
  induction h with
  | free hfree => exact hfree
  | taken htaken hrest ih => exact ih

/-- The names of all numbers that are passed by are in use. -/
theorem mem_of_lt (h : Searches used n tries found) {i : Nat} (hi : n < i) (hlt : i < found) :
    counted i ∈ used := by
  induction h with
  | free hfree => omega
  | taken htaken hrest ih =>
    rcases Nat.eq_or_lt_of_le (Nat.succ_le_of_lt hi) with rfl | hi
    · exact htaken
    · exact ih hi hlt

/-- A search tries at most one candidate more than there are names in use. -/
theorem tries_le (h : Searches used n tries found) : tries ≤ used.toFinset.card + 1 := by
  have hcard : (Finset.Ioo n found).card ≤ used.toFinset.card :=
    card_le_card_used fun i hi => h.mem_of_lt (Finset.mem_Ioo.mp hi).1 (Finset.mem_Ioo.mp hi).2
  rw [Nat.card_Ioo] at hcard
  have hfound := h.found_eq
  omega

end Searches

theorem exists_searches_of_exists (h : ∃ i ≤ tries, counted (n + 1 + i) ∉ used) :
    ∃ tried, Searches used n tried (freeNumber used tries n) := by
  induction tries generalizing n with
  | zero =>
    -- The last candidate is taken without a look at its name, so it has to be the free one.
    obtain ⟨i, hi, hfree⟩ := h
    obtain rfl : i = 0 := by omega
    exact ⟨1, .free hfree⟩
  | succ tries ih =>
    rw [freeNumber]
    split
    next hused =>
      have htaken := List.contains_iff_mem.mp hused
      obtain ⟨i, hi, hfree⟩ := h
      cases i with
      | zero => exact absurd htaken hfree
      | succ i =>
        rw [show n + 1 + (i + 1) = n + 1 + 1 + i by omega] at hfree
        obtain ⟨tried, hrest⟩ := ih ⟨i, by omega, hfree⟩
        exact ⟨tried + 1, .taken htaken hrest⟩
    next hfree => exact ⟨1, .free fun hmem => hfree (List.contains_iff_mem.mpr hmem)⟩

/-- Not all of as many candidates as there are names in use and one more are in use. -/
theorem exists_counted_notMem (used : List String) (n : Nat) :
    ∃ i ≤ used.length, counted (n + 1 + i) ∉ used := by
  by_contra hall
  have hused : ∀ i ∈ Finset.Icc (n + 1) (n + 1 + used.length), counted i ∈ used := by
    intro i hi
    obtain ⟨hle, hge⟩ := Finset.mem_Icc.mp hi
    by_contra hfree
    exact hall ⟨i - (n + 1), by omega, by rwa [Nat.add_sub_cancel' hle]⟩
  have hcard := (card_le_card_used hused).trans (List.toFinset_card_le used)
  rw [Nat.card_Icc] at hcard
  omega

/-- The number that is found is what a search comes to. -/
theorem exists_searches (used : List String) (n : Nat) :
    ∃ tries, Searches used n tries (freeNumber used used.length n) :=
  exists_searches_of_exists (exists_counted_notMem used n)

theorem drawn_notMem_of_freeDraw? {draws rest : List Uuid} {u : Uuid}
    (h : freeDraw? used draws = some (u, rest)) : drawn u ∉ used := by
  induction draws with
  | nil => cases h
  | cons first draws ih =>
    rw [freeDraw?] at h
    split at h
    next => exact ih h
    next hfree =>
      obtain ⟨rfl, -⟩ := Prod.mk.inj (Option.some.inj h)
      exact fun hmem => hfree (List.contains_iff_mem.mpr hmem)

/-- The next name is free, and it is in use afterwards. -/
theorem used_next? {s rest : NameSupply} {name : String} (h : s.next? = some (name, rest)) :
    name ∉ s.used ∧ rest.used = name :: s.used := by
  rw [next?] at h
  split at h
  next =>
    obtain ⟨rfl, rfl⟩ := Prod.mk.inj (Option.some.inj h)
    obtain ⟨tries, hsearch⟩ := exists_searches s.used s.counter
    exact ⟨hsearch.notMem, rfl⟩
  next =>
    split at h
    next => cases h
    next u draws hdraw =>
      obtain ⟨rfl, rfl⟩ := Prod.mk.inj (Option.some.inj h)
      exact ⟨drawn_notMem_of_freeDraw? hdraw, rfl⟩

/-- Names that are taken differ from each other and from those in use. -/
theorem take?_fresh {n : Nat} {s : NameSupply} {names : List String}
    (h : s.take? n = some names) : names.Nodup ∧ ∀ name ∈ names, name ∉ s.used := by
  induction n generalizing s names with
  | zero =>
    obtain rfl := Option.some.inj h
    exact ⟨List.nodup_nil, by simp⟩
  | succ n ih =>
    simp only [take?, Option.bind_eq_bind, Option.bind_eq_some_iff] at h
    obtain ⟨⟨first, rest⟩, hnext, others, hothers, hnames⟩ := h
    obtain rfl := Option.some.inj hnames
    obtain ⟨hfree, hused⟩ := used_next? hnext
    obtain ⟨hnodup, hnot⟩ := ih hothers
    rw [hused] at hnot
    refine ⟨List.nodup_cons.mpr ⟨fun hmem => ?_, hnodup⟩, fun name hmem => ?_⟩
    · exact hnot first hmem List.mem_cons_self
    · rcases List.mem_cons.mp hmem with rfl | hmem
      · exact hfree
      · exact fun hused' => hnot name hmem (List.mem_cons_of_mem _ hused')

theorem length_take? {n : Nat} {s : NameSupply} {names : List String}
    (h : s.take? n = some names) : names.length = n := by
  induction n generalizing s names with
  | zero =>
    obtain rfl := Option.some.inj h
    rfl
  | succ n ih =>
    simp only [take?, Option.bind_eq_bind, Option.bind_eq_some_iff] at h
    obtain ⟨⟨name, rest⟩, -, names', hrest, hnames⟩ := h
    obtain rfl := Option.some.inj hnames
    rw [List.length_cons, ih hrest]

/-- Names that are counted up do not run out. -/
theorem exists_take?_counter (n : Nat) (used : List String) (counter : Nat) (draws : List Uuid) :
    ∃ names, take? n ⟨.counter, used, counter, draws⟩ = some names := by
  induction n generalizing used counter with
  | zero => exact ⟨[], rfl⟩
  | succ n ih =>
    let number := freeNumber used used.length counter
    obtain ⟨names, hnames⟩ := ih (counted number :: used) number
    exact ⟨counted number :: names, by simp [take?, next?, number, hnames]⟩

/-- Numbered names do not depend on what is drawn. -/
theorem take?_counter (n : Nat) (used : List String) (counter : Nat)
    (draws draws' : List Uuid) :
    take? n ⟨.counter, used, counter, draws⟩ = take? n ⟨.counter, used, counter, draws'⟩ := by
  induction n generalizing used counter with
  | zero => rfl
  | succ n ih =>
    simp only [take?, next?, Option.bind_eq_bind, Option.bind_some]
    rw [ih]

end ImageImports.NameSupply
