import ImageImports.Proofs.Json.Grammar

/-!
# Texts of JSON strings

The characters that are read from the marks of a string are those of the text that the marks stand
for, and a string that stands for no text is refused.

## Main results

* `Json.decodeChars?_eq_some_iff`: what is read from the marks of a string.
* `Json.Denotes.unique`: marks stand for one text at most.
-/

namespace ImageImports.Json

/-! ### Code units -/

theorem isLeading_iff {n : Nat} : isLeading n = true ↔ 0xD800 ≤ n ∧ n ≤ 0xDBFF := by
  simp [isLeading]

theorem isTrailing_iff {n : Nat} : isTrailing n = true ↔ 0xDC00 ≤ n ∧ n ≤ 0xDFFF := by
  simp [isTrailing]

theorem toNat_ofNat {n : Nat} (h : n.isValidChar) : (Char.ofNat n).toNat = n := by
  rw [Char.ofNat, dif_pos h]
  rfl

theorem length_codeUnits_pos (c : Char) : 0 < (codeUnits c).length := by
  rw [codeUnits]
  split <;> exact Nat.succ_pos _

theorem codeUnits_ofNat {code : UInt16} (hleading : isLeading code.toNat ≠ true)
    (htrailing : isTrailing code.toNat ≠ true) : codeUnits (Char.ofNat code.toNat) = [code] := by
  rw [ne_eq, isLeading_iff] at hleading
  rw [ne_eq, isTrailing_iff] at htrailing
  have hlt := code.toNat_lt
  have hvalid : code.toNat.isValidChar := by
    rw [Nat.isValidChar]
    omega
  rw [codeUnits, toNat_ofNat hvalid, if_pos (by omega), UInt16.ofNat_toNat]

/-- The halves of a pair are the code units of its character. -/
theorem codeUnits_ofNat_pair {high low : UInt16} (hleading : isLeading high.toNat = true)
    (htrailing : isTrailing low.toNat = true) :
    codeUnits (Char.ofNat (0x10000 + (high.toNat - 0xD800) * 0x400 + (low.toNat - 0xDC00))) =
      [high, low] := by
  rw [isLeading_iff] at hleading
  rw [isTrailing_iff] at htrailing
  have hvalid : (0x10000 + (high.toNat - 0xD800) * 0x400 + (low.toNat - 0xDC00)).isValidChar := by
    rw [Nat.isValidChar]
    omega
  have hhigh : 0xD800 + (0x10000 + (high.toNat - 0xD800) * 0x400 + (low.toNat - 0xDC00) - 0x10000)
      / 0x400 = high.toNat := by omega
  have hlow : 0xDC00 + (0x10000 + (high.toNat - 0xD800) * 0x400 + (low.toNat - 0xDC00) - 0x10000)
      % 0x400 = low.toNat := by omega
  rw [codeUnits, toNat_ofNat hvalid, if_neg (by omega), hhigh, hlow,
    UInt16.ofNat_toNat, UInt16.ofNat_toNat]

/-! ### Reading strings -/

theorem decodeChars?_unit {n : Nat} (hleading : isLeading n ≠ true)
    (htrailing : isTrailing n ≠ true) (rest : List Piece) :
    decodeChars? (.escaped n :: rest) = (decodeChars? rest).map (Char.ofNat n :: ·) := by
  rcases rest with _ | ⟨_ | _, _⟩ <;> simp [decodeChars?, hleading, htrailing]

theorem decodeChars?_pair {high low : Nat} (hleading : isLeading high = true)
    (htrailing : isTrailing low = true) (rest : List Piece) :
    decodeChars? (.escaped high :: .escaped low :: rest) =
      (decodeChars? rest).map
        (Char.ofNat (0x10000 + (high - 0xD800) * 0x400 + (low - 0xDC00)) :: ·) := by
  simp [decodeChars?, hleading, htrailing]

theorem decodeChars?_codeUnits (c : Char) (rest : List Piece) :
    decodeChars? (((codeUnits c).map .unit).map Mark.piece ++ rest) =
      (decodeChars? rest).map (c :: ·) := by
  have hvalid : c.toNat < 0xD800 ∨ 0xDFFF < c.toNat ∧ c.toNat < 0x110000 := c.valid
  unfold codeUnits
  split
  next hfirst =>
    have hcode : (UInt16.ofNat c.toNat).toNat = c.toNat := UInt16.toNat_ofNat_of_lt' hfirst
    have hleading : isLeading c.toNat ≠ true := by
      rw [ne_eq, isLeading_iff]
      omega
    have htrailing : isTrailing c.toNat ≠ true := by
      rw [ne_eq, isTrailing_iff]
      omega
    have hunit := decodeChars?_unit hleading htrailing rest
    rw [Char.ofNat_toNat] at hunit
    simpa only [List.map_cons, List.map_nil, List.singleton_append, Mark.piece, hcode] using hunit
  next hfirst =>
    have hhigh : (UInt16.ofNat (0xD800 + (c.toNat - 0x10000) / 0x400)).toNat =
        0xD800 + (c.toNat - 0x10000) / 0x400 :=
      UInt16.toNat_ofNat_of_lt' (by rw [UInt16.size]; omega)
    have hlow : (UInt16.ofNat (0xDC00 + (c.toNat - 0x10000) % 0x400)).toNat =
        0xDC00 + (c.toNat - 0x10000) % 0x400 :=
      UInt16.toNat_ofNat_of_lt' (by rw [UInt16.size]; omega)
    have hleading : isLeading (0xD800 + (c.toNat - 0x10000) / 0x400) = true := by
      rw [isLeading_iff]
      omega
    have htrailing : isTrailing (0xDC00 + (c.toNat - 0x10000) % 0x400) = true := by
      rw [isTrailing_iff]
      omega
    have hpair := decodeChars?_pair hleading htrailing rest
    have hcode : 0x10000 + (0xD800 + (c.toNat - 0x10000) / 0x400 - 0xD800) * 0x400 +
        (0xDC00 + (c.toNat - 0x10000) % 0x400 - 0xDC00) = c.toNat := by omega
    rw [hcode, Char.ofNat_toNat] at hpair
    simpa only [List.map_cons, List.map_nil, List.cons_append, List.nil_append, Mark.piece, hhigh,
      hlow] using hpair

theorem Denotes.decodeChars?_eq {marks : List Mark} {text : List Char} (h : Denotes marks text) :
    decodeChars? (marks.map Mark.piece) = some text := by
  induction h with
  | nil => rfl
  | char _ ih =>
    rw [List.map_cons, Mark.piece, decodeChars?, ih, Option.map_some]
  | units _ ih => rw [List.map_append, decodeChars?_codeUnits, ih, Option.map_some]

/-- Marks that start with a code unit, and from which something is read, start with all code units
of a character. -/
theorem exists_of_decodeChars?_unit {code : UInt16} {marks : List Mark} {text : List Char}
    (h : decodeChars? ((.unit code :: marks).map Mark.piece) = some text) :
    ∃ c rest after, .unit code :: marks = (codeUnits c).map .unit ++ rest ∧
      decodeChars? (rest.map Mark.piece) = some after ∧ c :: after = text := by
  rw [List.map_cons, Mark.piece] at h
  by_cases hleading : isLeading code.toNat = true
  · obtain _ | ⟨c | low, rest⟩ := marks
    · simp [decodeChars?, hleading] at h
    · simp [decodeChars?, Mark.piece, hleading] at h
    · rw [List.map_cons, Mark.piece] at h
      by_cases htrailing : isTrailing low.toNat = true
      · rw [decodeChars?_pair hleading htrailing] at h
        obtain ⟨after, hafter, htext⟩ := Option.map_eq_some_iff.mp h
        refine ⟨_, rest, after, ?_, hafter, htext⟩
        rw [codeUnits_ofNat_pair hleading htrailing]
        rfl
      · simp [decodeChars?, hleading, htrailing] at h
  · by_cases htrailing : isTrailing code.toNat = true
    · obtain _ | ⟨_ | _, rest⟩ := marks <;>
        simp [decodeChars?, Mark.piece, hleading, htrailing] at h
    · rw [decodeChars?_unit hleading htrailing] at h
      obtain ⟨after, hafter, htext⟩ := Option.map_eq_some_iff.mp h
      refine ⟨_, marks, after, ?_, hafter, htext⟩
      rw [codeUnits_ofNat hleading htrailing]
      rfl

theorem denotes_of_decodeChars? {marks : List Mark} {text : List Char}
    (h : decodeChars? (marks.map Mark.piece) = some text) : Denotes marks text := by
  -- A character may take two marks, so the induction is on the number of marks.
  induction hlength : marks.length using Nat.strongRecOn generalizing marks text with
  | ind n ih =>
    subst hlength
    obtain _ | ⟨c | code, marks⟩ := marks
    · cases h
      exact .nil
    · rw [List.map_cons, Mark.piece, decodeChars?] at h
      obtain ⟨after, hafter, rfl⟩ := Option.map_eq_some_iff.mp h
      exact .char (ih _ (Nat.lt_succ_self _) hafter rfl)
    · obtain ⟨c, rest, after, hmarks, hafter, rfl⟩ := exists_of_decodeChars?_unit h
      have hrest : rest.length < (Mark.unit code :: marks).length := by
        rw [hmarks, List.length_append, List.length_map]
        exact Nat.lt_add_of_pos_left (length_codeUnits_pos c)
      rw [hmarks]
      exact .units (ih _ hrest hafter rfl)

/-- What is read from the marks of a string is the text that they stand for. -/
theorem decodeChars?_eq_some_iff {marks : List Mark} {text : List Char} :
    decodeChars? (marks.map Mark.piece) = some text ↔ Denotes marks text :=
  ⟨denotes_of_decodeChars?, Denotes.decodeChars?_eq⟩

theorem decodePieces?_eq_some_iff {marks : List Mark} {text : String} :
    decodePieces? (marks.map Mark.piece) = some text ↔ Denotes marks text.toList := by
  rw [decodePieces?, Option.map_eq_some_iff, ← decodeChars?_eq_some_iff]
  constructor
  · rintro ⟨cs, hcs, rfl⟩
    rw [hcs, String.toList_ofList]
  · exact fun h => ⟨text.toList, h, String.ofList_toList⟩

/-- Marks stand for one text at most. -/
theorem Denotes.unique {marks : List Mark} {text other : List Char} (h : Denotes marks text)
    (h' : Denotes marks other) : text = other :=
  Option.some.inj (h.decodeChars?_eq.symm.trans h'.decodeChars?_eq)

end ImageImports.Json
