import ImageImports.Bytes.Utf8
import Mathlib.Data.List.Basic
import Mathlib.Tactic.SplitIfs

/-!
# Bytes that are shown as texts

A text is shown by its own bytes as what it is. ASCII is seen through: a character in ASCII is shown
for its own byte and for nothing else. So the stretches between slashes are shown one by one,
whatever they are, and what is shown in ASCII is what it is shown as.

## Main results

* `Utf8.decodeFrom_between_append`: a character that is read back from its bytes.
* `Utf8.decode_encode`: a text is read back from its bytes.
* `Utf8.decodeChars_append_slash`, `Utf8.slash_notMem_decodeChars`: slashes are seen through.
* `Utf8.encodeChars_decodeChars_of_ascii`: what is shown in ASCII.
-/

namespace ImageImports.Utf8

/-! ### Characters read back from their bytes -/

section

variable {n : Nat}

theorem toNat_ofNat_of_lt (h : n < 256) : (UInt8.ofNat n).toNat = n := by
  rw [UInt8.toNat_ofNat']
  exact Nat.mod_eq_of_lt h

theorem begin_one (h : n < 128) : begin (UInt8.ofNat n) = ([Char.ofNat n], .between) := by
  rw [begin, toNat_ofNat_of_lt (by omega), if_pos (by omega)]

theorem begin_two (hlow : 2 ≤ n) (hhigh : n < 32) :
    begin (UInt8.ofNat (n + 192)) = ([], .within n 0 0 63) := by
  rw [begin, toNat_ofNat_of_lt (by omega), if_neg (by omega), if_neg (by omega),
    if_pos (by omega), Nat.add_sub_cancel]

theorem begin_three (h : n < 16) : begin (UInt8.ofNat (n + 224)) =
    ([], .within n 1 (if n = 0 then 32 else 0) (if n = 13 then 31 else 63)) := by
  simp only [begin, toNat_ofNat_of_lt (show n + 224 < 256 by omega), Nat.add_sub_cancel]
  rw [if_neg (by omega), if_neg (by omega), if_neg (by omega), if_pos (by omega)]
  simp

theorem begin_four (h : n ≤ 4) : begin (UInt8.ofNat (n + 240)) =
    ([], .within n 2 (if n = 0 then 16 else 0) (if n = 4 then 15 else 63)) := by
  simp only [begin, toNat_ofNat_of_lt (show n + 240 < 256 by omega), Nat.add_sub_cancel]
  rw [if_neg (by omega), if_neg (by omega), if_neg (by omega), if_neg (by omega),
    if_pos (by omega)]
  simp

variable {bits low high : Nat} (hlow : low ≤ n) (hhigh : n ≤ high) (hn : n < 64)

include hlow hhigh hn

theorem read_within {more : Nat} : (State.within bits (more + 1) low high).read
    (UInt8.ofNat (n + 128)) = ([], .within (64 * bits + n) more 0 63) := by
  simp only [State.read, toNat_ofNat_of_lt (show n + 128 < 256 by omega), Nat.add_sub_cancel]
  rw [if_pos (by omega)]

theorem read_last : (State.within bits 0 low high).read (UInt8.ofNat (n + 128)) =
    ([Char.ofNat (64 * bits + n)], .between) := by
  simp only [State.read, toNat_ofNat_of_lt (show n + 128 < 256 by omega), Nat.add_sub_cancel]
  rw [if_pos (by omega)]

end

theorem decodeFrom_cons {s s' : State} {b : UInt8} {chars : List Char} (h : s.read b = (chars, s'))
    (rest : List UInt8) : decodeFrom s (b :: rest) = chars ++ decodeFrom s' rest := by
  rw [decodeFrom, h]

/-- A character is read back from its bytes, whatever comes after them. -/
theorem decodeFrom_between_append (c : Char) (rest : List UInt8) :
    decodeFrom .between (String.utf8EncodeChar c ++ rest) = c :: decodeFrom .between rest := by
  have hvalid : c.val.toNat < 0xD800 ∨ 0xDFFF < c.val.toNat ∧ c.val.toNat < 0x110000 := c.valid
  have hchar : Char.ofNat c.val.toNat = c := Char.ofNat_toNat c
  rw [String.utf8EncodeChar]
  generalize c.val.toNat = v at hvalid hchar
  subst hchar
  -- The cases are the numbers of bytes. The bits of all bytes make up the character again.
  split_ifs with hone htwo hthree
  · rw [List.singleton_append, decodeFrom_cons (s := .between) (begin_one (by omega))]
    rfl
  · rw [List.cons_append, decodeFrom_cons (s := .between) (begin_two (by omega) (by omega)),
      List.nil_append, List.singleton_append,
      decodeFrom_cons (read_last (by omega) (by omega) (by omega)), List.singleton_append]
    congr 2
    omega
  · rw [List.cons_append, decodeFrom_cons (s := .between) (begin_three (by omega)),
      List.nil_append, List.cons_append, decodeFrom_cons
        (read_within (by split <;> omega) (by split <;> omega) (by omega)),
      List.nil_append, List.singleton_append,
      decodeFrom_cons (read_last (by omega) (by omega) (by omega)), List.singleton_append]
    congr 2
    omega
  · rw [List.cons_append, decodeFrom_cons (s := .between) (begin_four (by omega)),
      List.nil_append, List.cons_append, decodeFrom_cons
        (read_within (by split <;> omega) (by split <;> omega) (by omega)),
      List.nil_append, List.cons_append,
      decodeFrom_cons (read_within (by omega) (by omega) (by omega)),
      List.nil_append, List.singleton_append,
      decodeFrom_cons (read_last (by omega) (by omega) (by omega)), List.singleton_append]
    congr 2
    omega

theorem decodeChars_encodeChars (chars : List Char) : decodeChars (encodeChars chars) = chars := by
  rw [decodeChars, encodeChars]
  induction chars with
  | nil => rfl
  | cons c rest ih => rw [List.flatMap_cons, decodeFrom_between_append, ih]

/-- A text is read back from its bytes. -/
theorem decode_encode (text : String) : decode (encode text) = text := by
  rw [decode, encode, decodeChars_encodeChars, String.ofList_toList]

theorem encode_injective : Function.Injective encode :=
  Function.LeftInverse.injective decode_encode

theorem encode_decode (bytes : List UInt8) :
    encode (decode bytes) = encodeChars (decodeChars bytes) := by
  rw [encode, decode, String.toList_ofList]

/-! ### Characters in ASCII -/

/-- The byte of a slash ends whatever came before it. -/
theorem read_slash (s : State) : s.read 47 = (s.broken ++ ['/'], .between) := by
  cases s with
  | between => rfl
  | within bits more low high =>
    rw [State.read, if_neg (by rw [show (47 : UInt8).toNat = 47 from rfl]; omega)]
    rfl

theorem decodeFrom_append_slash (s : State) (before after : List UInt8) :
    decodeFrom s (before ++ 47 :: after) = decodeFrom s before ++ '/' :: decodeChars after := by
  induction before generalizing s with
  | nil => rw [List.nil_append, decodeFrom_cons (read_slash s), List.append_assoc]; rfl
  | cons b rest ih => rw [List.cons_append, decodeFrom, decodeFrom, ih, List.append_assoc]

/-- What comes before a slash is shown as it is without the slash, and so is what comes after. -/
theorem decodeChars_append_slash (before after : List UInt8) :
    decodeChars (before ++ 47 :: after) = decodeChars before ++ '/' :: decodeChars after :=
  decodeFrom_append_slash .between before after

/-- Every number of which so many bytes are still to come is that of a character beyond ASCII. -/
def LeadsBeyond : Nat → Nat → Prop
  | 0, n => n.isValidChar ∧ 128 ≤ n
  | more + 1, n => ∀ k < 64, LeadsBeyond more (64 * n + k)

/-- The character that is begun lies beyond ASCII. -/
def State.Beyond : State → Prop
  | .between => True
  | .within bits more low high =>
    high < 64 ∧ ∀ k, low ≤ k → k ≤ high → LeadsBeyond more (64 * bits + k)

theorem toNat_ofNat_of_isValidChar {n : Nat} (h : n.isValidChar) : (Char.ofNat n).toNat = n := by
  rw [Char.ofNat, dif_pos h]
  rfl

/-- A first byte that is in ASCII is shown. Any other one is replaced, or begins a character beyond
ASCII. -/
theorem begin_cases (b : UInt8) :
    b.toNat < 128 ∧ begin b = ([Char.ofNat b.toNat], .between) ∨
      128 ≤ b.toNat ∧ (begin b = ([replacement], .between) ∨
        ∃ bits more low high, begin b = ([], .within bits more low high) ∧
          (State.within bits more low high).Beyond) := by
  have hb : b.toNat < 256 := b.toNat_lt
  unfold begin
  dsimp only
  split_ifs with hone hlow htwo hthree
  · exact .inl ⟨hone, rfl⟩
  · exact .inr ⟨by omega, .inl rfl⟩
  all_goals
    refine .inr ⟨by omega, ?_⟩
    first
      | exact .inl rfl
      | refine .inr ⟨_, _, _, _, rfl, by omega, ?_⟩
        simp only [LeadsBeyond, Nat.isValidChar]
        omega

/-- A character that is begun beyond ASCII stays beyond it with every byte, until it is shown or
replaced. -/
theorem read_within_cases {bits more low high : Nat}
    (h : (State.within bits more low high).Beyond) (b : UInt8) :
    (∃ c, 128 ≤ c.toNat ∧ (State.within bits more low high).read b = ([c], .between)) ∨
    (∃ bits' more', (State.within bits more low high).read b = ([], .within bits' more' 0 63) ∧
      (State.within bits' more' 0 63).Beyond) ∨
    (State.within bits more low high).read b = (replacement :: (begin b).1, (begin b).2) := by
  rw [State.read]
  split
  next hbyte =>
    have hleads := h.2 (b.toNat - 128) (by omega) (by omega)
    cases more with
    | zero => exact .inl ⟨_, by rw [toNat_ofNat_of_isValidChar hleads.1]; exact hleads.2, rfl⟩
    | succ more => exact .inr (.inl ⟨_, more, rfl, by omega, fun k _ hk => hleads k (by omega)⟩)
  next => exact .inr (.inr rfl)

theorem begin_beyond (b : UInt8) :
    (begin b).2.Beyond ∧ ∀ c ∈ (begin b).1, c.toNat < 128 → c.toNat = b.toNat := by
  obtain ⟨hascii, hbegin⟩ | ⟨-, hbegin | ⟨bits, more, low, high, hbegin, hbeyond⟩⟩ := begin_cases b
  · have hb : b.toNat.isValidChar := by
      rw [Nat.isValidChar]
      omega
    rw [hbegin]
    refine ⟨trivial, fun c hc _ => ?_⟩
    rw [List.mem_singleton.mp hc, toNat_ofNat_of_isValidChar hb]
  · rw [hbegin]
    refine ⟨trivial, fun c hc hlow => ?_⟩
    rw [List.mem_singleton.mp hc] at hlow
    exact absurd hlow (by decide)
  · rw [hbegin]
    exact ⟨hbeyond, by simp⟩

/-- A character in ASCII is shown for its own byte only. -/
theorem read_beyond {s : State} (hs : s.Beyond) (b : UInt8) :
    (s.read b).2.Beyond ∧ ∀ c ∈ (s.read b).1, c.toNat < 128 → c.toNat = b.toNat := by
  cases s with
  | between => exact begin_beyond b
  | within bits more low high =>
    obtain ⟨c, hc, hread⟩ | ⟨bits', more', hread, hbeyond⟩ | hread := read_within_cases hs b
    · rw [hread]
      refine ⟨trivial, fun c' hc' hlow => ?_⟩
      rw [List.mem_singleton.mp hc'] at hlow
      omega
    · rw [hread]
      exact ⟨hbeyond, by simp⟩
    · rw [hread]
      refine ⟨(begin_beyond b).1, fun c hc hlow => ?_⟩
      rcases List.mem_cons.mp hc with rfl | hc
      · exact absurd hlow (by decide)
      · exact (begin_beyond b).2 c hc hlow

theorem slash_notMem_decodeFrom {s : State} {bytes : List UInt8} (hs : s.Beyond)
    (h : 47 ∉ bytes) : '/' ∉ decodeFrom s bytes := by
  induction bytes generalizing s with
  | nil => cases s <;> simp [decodeFrom, State.broken, replacement]
  | cons b rest ih =>
    rw [List.mem_cons, not_or] at h
    obtain ⟨hnext, hread⟩ := read_beyond hs b
    rw [decodeFrom, List.mem_append, not_or]
    refine ⟨fun hmem => h.1 ?_, ih hnext h.2⟩
    exact UInt8.toNat_inj.mp (hread _ hmem (by decide))

theorem exists_of_within {bits more low high : Nat} (h : (State.within bits more low high).Beyond)
    (bytes : List UInt8) : ∃ c ∈ decodeFrom (.within bits more low high) bytes, 128 ≤ c.toNat := by
  have hreplacement : 128 ≤ replacement.toNat := by decide
  induction bytes generalizing bits more low high with
  | nil => exact ⟨replacement, List.mem_singleton_self _, hreplacement⟩
  | cons b rest ih =>
    obtain ⟨c, hc, hread⟩ | ⟨bits', more', hread, hbeyond⟩ | hread := read_within_cases h b
    · exact ⟨c, by rw [decodeFrom, hread]; exact List.mem_cons_self, hc⟩
    · rw [decodeFrom, hread]
      exact ih hbeyond
    · exact ⟨replacement, by rw [decodeFrom, hread]; exact List.mem_cons_self, hreplacement⟩

/-- Bytes without a slash are shown without one. -/
theorem slash_notMem_decodeChars {bytes : List UInt8} (h : 47 ∉ bytes) :
    '/' ∉ decodeChars bytes := slash_notMem_decodeFrom trivial h

theorem toNat_eq_of_mem_utf8EncodeChar {b : UInt8} {c : Char} (h : b ∈ String.utf8EncodeChar c)
    (hb : b.toNat < 128) : c.toNat = b.toNat := by
  have hvalid : c.val.toNat < 0xD800 ∨ 0xDFFF < c.val.toNat ∧ c.val.toNat < 0x110000 := c.valid
  change c.val.toNat = _
  rw [String.utf8EncodeChar] at h
  generalize c.val.toNat = v at h hvalid ⊢
  revert h
  split_ifs <;> simp only [List.mem_cons, List.not_mem_nil, or_false] <;>
    rintro (rfl | rfl | rfl | rfl) <;> rw [UInt8.toNat_ofNat'] at hb ⊢ <;> omega

theorem utf8EncodeChar_of_ascii {c : Char} (h : c.toNat < 128) :
    String.utf8EncodeChar c = [UInt8.ofNat c.toNat] := by
  have hc : c.val.toNat < 128 := h
  rw [String.utf8EncodeChar, if_pos (by omega)]
  rfl

theorem ofNat_mem_encodeChars_iff {c : Char} (h : c.toNat < 128) {chars : List Char} :
    UInt8.ofNat c.toNat ∈ encodeChars chars ↔ c ∈ chars := by
  have hbyte : (UInt8.ofNat c.toNat).toNat = c.toNat := toNat_ofNat_of_lt (by omega)
  constructor
  · intro hmem
    obtain ⟨d, hd, hd'⟩ := List.mem_flatMap.mp hmem
    have hsame := toNat_eq_of_mem_utf8EncodeChar hd' (by omega)
    rw [hbyte, Char.toNat_inj] at hsame
    exact hsame ▸ hd
  · intro hmem
    exact List.mem_flatMap.mpr ⟨c, hmem, by simp [utf8EncodeChar_of_ascii h]⟩

theorem slash_notMem_encodeChars {chars : List Char} (h : '/' ∉ chars) :
    47 ∉ encodeChars chars :=
  mt (ofNat_mem_encodeChars_iff (c := '/') (by decide)).mp h

/-- Bytes that are shown in ASCII are those of what they are shown as. -/
theorem encodeChars_decodeChars_of_ascii {bytes : List UInt8}
    (h : ∀ c ∈ decodeChars bytes, c.toNat < 128) : encodeChars (decodeChars bytes) = bytes := by
  induction bytes with
  | nil => rfl
  | cons b rest ih =>
    obtain ⟨hascii, hbegin⟩ | ⟨-, hbegin | ⟨bits, more, low, high, hbegin, hbeyond⟩⟩ :=
      begin_cases b
    · have hchars : decodeChars (b :: rest) = Char.ofNat b.toNat :: decodeChars rest :=
        decodeFrom_cons (s := .between) hbegin rest
      have hchar : String.utf8EncodeChar (Char.ofNat b.toNat) = [b] := by
        have hb : (Char.ofNat b.toNat).toNat = b.toNat :=
          toNat_ofNat_of_isValidChar (by rw [Nat.isValidChar]; omega)
        rw [utf8EncodeChar_of_ascii (by omega), hb, UInt8.ofNat_toNat]
      rw [hchars] at h ⊢
      rw [encodeChars, List.flatMap_cons, hchar, List.singleton_append]
      exact congrArg (b :: ·) (ih fun c hc => h c (List.mem_cons_of_mem _ hc))
    · have hchars : decodeChars (b :: rest) = replacement :: decodeChars rest :=
        decodeFrom_cons (s := .between) hbegin rest
      exact absurd (h replacement (hchars ▸ List.mem_cons_self)) (by decide)
    · have hchars : decodeChars (b :: rest) = decodeFrom (.within bits more low high) rest :=
        decodeFrom_cons (s := .between) hbegin rest
      obtain ⟨c, hmem, hc⟩ := exists_of_within hbeyond rest
      exact absurd (h c (hchars ▸ hmem)) (by omega)

end ImageImports.Utf8
