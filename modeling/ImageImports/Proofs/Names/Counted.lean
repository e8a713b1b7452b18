import ImageImports.Proofs.Names.Fresh

/-!
# Numbered names

Names that are counted up are those with the smallest numbers that are free: no free number is left
out, and none is given twice. Every call for a name starts after the number of the call before, and
all numbers up to there are in use by then. So the counter is never greater than the number of names
in use, and a call tries at most one candidate more than that.

## Main definitions

* `NameSupply.left?`: what is left of a supply when names have been taken.
* `NameSupply.afterNumber`: what a call for a numbered name leaves.
* `NameSupply.Counting`: a supply that has left out no number.
* `NameSupply.Enumerates`: the smallest numbers with a property, in order.

## Main results

* `NameSupply.exists_next?_counter`: what a call for a numbered name does.
* `NameSupply.Counting.afterNumber`, `NameSupply.Counting.exists_left?`: one call, and any number of
  them, leave out no number.
* `NameSupply.enumerates_of_take?`: the numbers of the names that are taken.
* `NameSupply.counted_names_are_smallest`: all of this for a program.
-/

namespace ImageImports.NameSupply

variable {s rest : NameSupply} {used : List String} {numbers : List Nat} {m n : Nat}

/-! ### One call after another -/

/-- What is left of a supply when several names have been taken. -/
def left? : Nat → NameSupply → Option NameSupply
  | 0, s => some s
  | n + 1, s => s.next?.bind fun call => left? n call.2

theorem getElem?_take? {i : Nat} {names : List String} {call : String × NameSupply}
    (h : s.take? m = some names) (hi : i < m) (hleft : s.left? i = some rest)
    (hnext : rest.next? = some call) : names[i]? = some call.1 := by
  induction m generalizing s names i with
  | zero => cases hi
  | succ m ih =>
    simp only [take?, Option.bind_eq_bind, Option.bind_eq_some_iff] at h
    obtain ⟨first, hfirst, others, hothers, hnames⟩ := h
    obtain rfl := Option.some.inj hnames
    cases i with
    | zero =>
      obtain rfl := Option.some.inj hleft
      obtain rfl := Option.some.inj (hfirst.symm.trans hnext)
      rfl
    | succ i =>
      rw [left?, hfirst, Option.bind_some] at hleft
      rw [List.getElem?_cons_succ]
      exact ih hothers (Nat.lt_of_succ_lt_succ hi) hleft

/-! ### A call for a numbered name -/

/-- A supply once the name of a number has been taken. -/
def afterNumber (s : NameSupply) (n : Nat) : NameSupply :=
  { s with used := counted n :: s.used, counter := n }

/-- The next numbered name is the one that a search finds. -/
theorem exists_next?_counter (hstyle : s.style = .counter) :
    ∃ tries found, Searches s.used s.counter tries found ∧
      s.next? = some (counted found, s.afterNumber found) := by
  obtain ⟨tries, hsearch⟩ := exists_searches s.used s.counter
  refine ⟨tries, _, hsearch, ?_⟩
  obtain ⟨style, used, counter, draws⟩ := s
  cases hstyle
  rfl

/-- Names are counted up, and no number is left out: all numbers up to the last one are in use. -/
structure Counting (s : NameSupply) : Prop where
  style : s.style = .counter
  taken : ∀ n, 0 < n → n ≤ s.counter → counted n ∈ s.used

namespace Counting

theorem ofProgram (draws : List Uuid) (program : Tree) :
    (ofProgram .counter draws program).Counting :=
  ⟨rfl, fun _ hpos hle => absurd hle (Nat.not_le_of_lt hpos)⟩

/-- The last number is at most the number of names in use. -/
theorem counter_le (h : s.Counting) : s.counter ≤ s.used.toFinset.card := by
  have hcard : (Finset.Icc 1 s.counter).card ≤ s.used.toFinset.card :=
    card_le_card_used fun i hi => h.taken i (Finset.mem_Icc.mp hi).1 (Finset.mem_Icc.mp hi).2
  rwa [Nat.card_Icc, Nat.add_sub_cancel] at hcard

/-- A call for a name leaves out no number either. -/
theorem afterNumber {tries : Nat} (h : s.Counting)
    (hsearch : Searches s.used s.counter tries n) : (s.afterNumber n).Counting := by
  refine ⟨h.style, fun i hpos hle => ?_⟩
  rcases Nat.eq_or_lt_of_le hle with rfl | hlt
  · exact List.mem_cons_self
  · refine List.mem_cons_of_mem _ ?_
    rcases Nat.lt_or_ge s.counter i with hnew | hold
    · exact hsearch.mem_of_lt hnew hlt
    · exact h.taken i hpos hold

/-- After any number of calls there is a supply for the next one. -/
theorem exists_left? (h : s.Counting) (i : Nat) :
    ∃ rest, s.left? i = some rest ∧ rest.Counting := by
  induction i generalizing s with
  | zero => exact ⟨s, rfl, h⟩
  | succ i ih =>
    obtain ⟨tries, found, hsearch, hnext⟩ := exists_next?_counter h.style
    obtain ⟨rest, hleft, hrest⟩ := ih (h.afterNumber hsearch)
    refine ⟨rest, ?_, hrest⟩
    rw [left?, hnext, Option.bind_some, hleft]

end Counting

/-! ### The smallest free numbers -/

/-- Numbers are the smallest ones that have a property, in ascending order. Every other number that
has it is greater than all of them. -/
structure Enumerates (P : Nat → Prop) (numbers : List Nat) : Prop where
  ascending : numbers.Pairwise (· < ·)
  holds : ∀ n ∈ numbers, P n
  lt_of_notMem : ∀ n, P n → n ∉ numbers → ∀ k ∈ numbers, k < n

theorem Enumerates.cons {P Q : Nat → Prop} {first : Nat} (hfirst : P first)
    (hleast : ∀ n, P n → first ≤ n) (hgreater : ∀ n, Q n ↔ first < n ∧ P n)
    (hrest : Enumerates Q numbers) : Enumerates P (first :: numbers) := by
  refine ⟨?_, ?_, ?_⟩
  · exact List.pairwise_cons.mpr
      ⟨fun n hmem => ((hgreater n).mp (hrest.holds n hmem)).1, hrest.ascending⟩
  · exact List.forall_mem_cons.mpr
      ⟨hfirst, fun n hmem => ((hgreater n).mp (hrest.holds n hmem)).2⟩
  · intro n hn hnot k hk
    rw [List.mem_cons, not_or] at hnot
    obtain ⟨hne, hnot⟩ := hnot
    have hlt : first < n := Nat.lt_of_le_of_ne (hleast n hn) (Ne.symm hne)
    rcases List.mem_cons.mp hk with rfl | hk
    · exact hlt
    · exact hrest.lt_of_notMem n ((hgreater n).mpr ⟨hlt, hn⟩) hnot k hk

/-- The numbers that are free once a number has been taken are those greater than it that were free
before. -/
theorem free_afterNumber_iff {counter found : Nat} (hlt : counter < found) :
    (found < n ∧ counted n ∉ counted found :: used) ↔
      found < n ∧ counter < n ∧ counted n ∉ used := by
  refine and_congr_right fun hn => ?_
  rw [List.mem_cons, not_or]
  constructor
  · rintro ⟨-, hfree⟩
    exact ⟨hlt.trans hn, hfree⟩
  · rintro ⟨-, hfree⟩
    exact ⟨fun hsame => hn.ne' (counted_injective hsame), hfree⟩

/-- Numbered names that are taken have the smallest free numbers after the last one. -/
theorem enumerates_of_take? {names : List String} (hstyle : s.style = .counter)
    (h : s.take? m = some names) :
    ∃ numbers, names = numbers.map counted ∧
      Enumerates (fun n => s.counter < n ∧ counted n ∉ s.used) numbers := by
  induction m generalizing s names with
  | zero =>
    obtain rfl := Option.some.inj h
    exact ⟨[], rfl, .nil, by simp, by simp⟩
  | succ m ih =>
    obtain ⟨tries, found, hsearch, hnext⟩ := exists_next?_counter hstyle
    simp only [take?, hnext, Option.bind_eq_bind, Option.bind_some, Option.bind_eq_some_iff] at h
    obtain ⟨others, hothers, hnames⟩ := h
    obtain rfl := Option.some.inj hnames
    -- The calls that follow start after the number of this one, so they find greater ones.
    obtain ⟨numbers, rfl, hrest⟩ := ih (s := s.afterNumber found) hstyle hothers
    refine ⟨found :: numbers, rfl, hrest.cons ⟨hsearch.lt_found, hsearch.notMem⟩ ?_
      fun n => free_afterNumber_iff hsearch.lt_found⟩
    rintro n ⟨hn, hfree⟩
    by_contra hlt
    exact hfree (hsearch.mem_of_lt hn (Nat.lt_of_not_le hlt))

/-- Any number of numbered names can be taken for a program. Their numbers are the smallest positive
ones whose names the program does not bear, in ascending order. A call finds its number by a search
that starts after the number of the call before and tries at most one candidate more than there are
names in use, and its number is at most the number of names that are in use afterwards. -/
theorem counted_names_are_smallest (program : Tree) (draws : List Uuid) (m : Nat) :
    let supply := ofProgram .counter draws program
    ∃ numbers : List Nat, supply.take? m = some (numbers.map counted) ∧ numbers.length = m ∧
      Enumerates (fun n => 0 < n ∧ counted n ∉ program.boundNames) numbers ∧
      ∀ i number, numbers[i]? = some number → ∃ s tries, supply.left? i = some s ∧
        s.next? = some (counted number, s.afterNumber number) ∧
        Searches s.used s.counter tries number ∧ tries ≤ s.used.toFinset.card + 1 ∧
        number ≤ (s.afterNumber number).used.toFinset.card := by
  intro supply
  obtain ⟨names, hnames⟩ := exists_take?_counter m program.boundNames 0 draws
  obtain ⟨numbers, rfl, hnumbers⟩ := enumerates_of_take? (s := supply) rfl hnames
  have hlength : numbers.length = m := by
    rw [← List.length_map (f := counted), length_take? hnames]
  refine ⟨numbers, hnames, hlength, hnumbers, fun i number hnumber => ?_⟩
  have hi : i < m := hlength ▸ (List.getElem?_eq_some_iff.mp hnumber).1
  obtain ⟨s, hleft, hs⟩ := (Counting.ofProgram draws program).exists_left? i
  obtain ⟨tries, found, hsearch, hnext⟩ := exists_next?_counter hs.style
  obtain rfl : number = found := by
    have hname := getElem?_take? hnames hi hleft hnext
    rw [List.getElem?_map, hnumber] at hname
    exact counted_injective (Option.some.inj hname)
  exact ⟨s, tries, hleft, hnext, hsearch, hsearch.tries_le, (hs.afterNumber hsearch).counter_le⟩

/-- Numbers whose names stand in the program are passed by. -/
example : (ofProgram .counter [] (.list [.binding "static_image_1", .binding "static_image_3",
    .propertyName "static_image_2"])).take? 3 =
      some ["static_image_2", "static_image_4", "static_image_5"] := by
  decide +kernel

end ImageImports.NameSupply
