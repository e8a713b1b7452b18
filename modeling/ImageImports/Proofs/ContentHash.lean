import ImageImports.ContentHash
import Mathlib.Data.List.Basic

/-!
# Spelling digests

Both spellings of a digest use letters, digits, `-` and `_` only, so a content address is the name
of a file as it stands, without a dot or a slash. All addresses of one spelling have one length, and
the digest can be read from its address, so different digests have different addresses.

## Main definitions

* `IsNameChar`: a character that is neither a dot nor a slash.
* `Base64Url.decode?`: the byte string of a text in base 64.
* `HashEncoding.IsDigit`, `HashEncoding.read?`: the characters of a spelled digest, and its bytes.

## Main results

* `Hex.decodeChars?_encodeChars`, `Base64Url.decodeChars?_encodeChars`: byte strings are read from
  their spellings.
* `HashEncoding.length_spell`, `HashEncoding.isDigit_spell`, `HashEncoding.read?_spell`,
  `HashEncoding.spell_injective`: the spelling of a digest.
-/

namespace ImageImports

/-- A character that is neither a dot nor a slash. -/
def IsNameChar (c : Char) : Prop := c ≠ '.' ∧ c ≠ '/'

instance (c : Char) : Decidable (IsNameChar c) := inferInstanceAs (Decidable (_ ∧ _))

/-! ### Hexadecimal digits -/

namespace Hex

theorem value?_digit {n : Nat} (h : n < 16) : value? (digit n) = some n := by
  have hall : ∀ n < 16, value? (digit n) = some n := by decide
  exact hall n h

/-- A byte string is read from its spelling. -/
theorem decodeChars?_encodeChars (bytes : List UInt8) :
    decodeChars? (encodeChars bytes) = some bytes := by
  induction bytes with
  | nil => rfl
  | cons b rest ih =>
    have hb := b.toNat_lt
    have hhigh : value? (digit (b.toNat / 16)) = some (b.toNat / 16) := value?_digit (by omega)
    have hlow : value? (digit (b.toNat % 16)) = some (b.toNat % 16) := value?_digit (by omega)
    have hbyte : UInt8.ofNat (16 * (b.toNat / 16) + b.toNat % 16) = b := by
      rw [Nat.div_add_mod, UInt8.ofNat_toNat]
    simp only [encodeChars, decodeChars?, hhigh, hlow, ih, hbyte, Option.bind_eq_bind,
      Option.bind_some, Option.pure_def]

theorem encodeChars_injective {a b : List UInt8} (h : encodeChars a = encodeChars b) : a = b := by
  have hread := decodeChars?_encodeChars a
  rw [h, decodeChars?_encodeChars] at hread
  exact (Option.some.inj hread).symm

theorem forall_mem_encodeChars {P : Char → Prop} (h : ∀ n < 16, P (digit n))
    (bytes : List UInt8) : ∀ c ∈ encodeChars bytes, P c := by
  induction bytes with
  | nil => exact nofun
  | cons b rest ih =>
    have hb := b.toNat_lt
    rw [encodeChars, List.forall_mem_cons, List.forall_mem_cons]
    exact ⟨h _ (by omega), h _ (by omega), ih⟩

theorem isNameChar_encodeChars (bytes : List UInt8) : ∀ c ∈ encodeChars bytes, IsNameChar c :=
  forall_mem_encodeChars (by decide) bytes

end Hex

/-! ### Digits of base 64 -/

namespace Base64Url

/-- The value of a character. -/
def value? (c : Char) : Option Nat :=
  if 'A' ≤ c ∧ c ≤ 'Z' then some (c.toNat - 65)
  else if 'a' ≤ c ∧ c ≤ 'z' then some (c.toNat - 71)
  else if '0' ≤ c ∧ c ≤ '9' then some (c.toNat + 4)
  else if c = '-' then some 62
  else if c = '_' then some 63
  else none

/-- The bytes that a list of characters spells, four characters for three bytes. Two or three
characters at the end are a group of one or two bytes, and the bits that are left over are zero. -/
def decodeChars? : List Char → Option (List UInt8)
  | [] => some []
  | [_] => none
  | [a, b] => do
    let first ← value? a
    let second ← value? b
    let n := 64 * first + second
    if n % 16 = 0 then some [UInt8.ofNat (n / 16)] else none
  | [a, b, c] => do
    let first ← value? a
    let second ← value? b
    let third ← value? c
    let n := 64 * (64 * first + second) + third
    if n % 4 = 0 then some [UInt8.ofNat (n / 1024), UInt8.ofNat (n / 4)] else none
  | a :: b :: c :: d :: rest => do
    let first ← value? a
    let second ← value? b
    let third ← value? c
    let fourth ← value? d
    let bytes ← decodeChars? rest
    let n := 64 * (64 * (64 * first + second) + third) + fourth
    return UInt8.ofNat (n / 65536) :: UInt8.ofNat (n / 256) :: UInt8.ofNat n :: bytes

/-- The byte string of a text. -/
def decode? (text : String) : Option (List UInt8) := decodeChars? text.toList

theorem value?_digit {n : Nat} (h : n < 64) : value? (digit n) = some n := by
  have hall : ∀ n < 64, value? (digit n) = some n := by decide
  exact hall n h

theorem ofNat_eq_of_mod {n : Nat} {b : UInt8} (h : n % 256 = b.toNat) : UInt8.ofNat n = b :=
  UInt8.toNat_inj.mp h

/-- A byte string is read from its spelling. -/
theorem decodeChars?_encodeChars (bytes : List UInt8) :
    decodeChars? (encodeChars bytes) = some bytes := by
  induction bytes using encodeChars.induct with
  | case1 => rfl
  | case2 a =>
    have ha := a.toNat_lt
    simp only [encodeChars]
    generalize hn : a.toNat * 16 = n
    have hjoin : 64 * (n / 64) + n % 64 = n := by omega
    have hfirst : UInt8.ofNat (n / 16) = a := ofNat_eq_of_mod (by omega)
    have hrest : n % 16 = 0 := by omega
    simp only [decodeChars?, value?_digit (show n / 64 < 64 by omega),
      value?_digit (show n % 64 < 64 by omega), hjoin, hfirst, hrest, Option.bind_eq_bind,
      Option.bind_some, if_true]
  | case3 a b =>
    have ha := a.toNat_lt
    have hb := b.toNat_lt
    simp only [encodeChars]
    generalize hn : (a.toNat * 256 + b.toNat) * 4 = n
    have hjoin : 64 * (64 * (n / 4096) + n / 64 % 64) + n % 64 = n := by omega
    have hfirst : UInt8.ofNat (n / 1024) = a := ofNat_eq_of_mod (by omega)
    have hsecond : UInt8.ofNat (n / 4) = b := ofNat_eq_of_mod (by omega)
    have hrest : n % 4 = 0 := by omega
    simp only [decodeChars?, value?_digit (show n / 4096 < 64 by omega),
      value?_digit (show n / 64 % 64 < 64 by omega), value?_digit (show n % 64 < 64 by omega),
      hjoin, hfirst, hsecond, hrest, Option.bind_eq_bind, Option.bind_some, if_true]
  | case4 a b c rest ih =>
    have ha := a.toNat_lt
    have hb := b.toNat_lt
    have hc := c.toNat_lt
    simp only [encodeChars]
    generalize hn : (a.toNat * 256 + b.toNat) * 256 + c.toNat = n
    have hjoin : 64 * (64 * (64 * (n / 262144) + n / 4096 % 64) + n / 64 % 64) + n % 64 = n := by
      omega
    have hfirst : UInt8.ofNat (n / 65536) = a := ofNat_eq_of_mod (by omega)
    have hsecond : UInt8.ofNat (n / 256) = b := ofNat_eq_of_mod (by omega)
    have hthird : UInt8.ofNat n = c := ofNat_eq_of_mod (by omega)
    simp only [decodeChars?, value?_digit (show n / 262144 < 64 by omega),
      value?_digit (show n / 4096 % 64 < 64 by omega),
      value?_digit (show n / 64 % 64 < 64 by omega), value?_digit (show n % 64 < 64 by omega),
      hjoin, hfirst, hsecond, hthird, ih, Option.bind_eq_bind, Option.bind_some, Option.pure_def]

theorem length_encodeChars (bytes : List UInt8) :
    (encodeChars bytes).length = (4 * bytes.length + 2) / 3 := by
  induction bytes using encodeChars.induct with
  | case1 => rfl
  | case2 a => simp [encodeChars]
  | case3 a b => simp [encodeChars]
  | case4 a b c rest ih =>
    simp only [encodeChars, List.length_cons, ih]
    omega

theorem forall_mem_encodeChars {P : Char → Prop} (h : ∀ n < 64, P (digit n))
    (bytes : List UInt8) : ∀ c ∈ encodeChars bytes, P c := by
  induction bytes using encodeChars.induct with
  | case1 => exact nofun
  | case2 a =>
    have ha := a.toNat_lt
    simp only [encodeChars, List.forall_mem_cons]
    exact ⟨h _ (by omega), h _ (by omega), nofun⟩
  | case3 a b =>
    have ha := a.toNat_lt
    have hb := b.toNat_lt
    simp only [encodeChars, List.forall_mem_cons]
    exact ⟨h _ (by omega), h _ (by omega), h _ (by omega), nofun⟩
  | case4 a b c rest ih =>
    have ha := a.toNat_lt
    have hb := b.toNat_lt
    have hc := c.toNat_lt
    simp only [encodeChars, List.forall_mem_cons]
    exact ⟨h _ (by omega), h _ (by omega), h _ (by omega), h _ (by omega), ih⟩

end Base64Url

/-! ### Content addresses -/

namespace HashEncoding

/-- The number of characters of a content address. -/
def length : HashEncoding → Nat
  | .hex => 64
  | .base64url => 43

theorem length_pos (e : HashEncoding) : 0 < e.length := by
  cases e <;> decide

/-- All spellings of digests have one length. -/
theorem length_spell (e : HashEncoding) (d : Digest) : (e.spell d).toList.length = e.length := by
  cases e with
  | hex => rw [spell, Hex.encode, String.toList_ofList, Hex.length_encodeChars,
      Digest.length_toList, length]
  | base64url => rw [spell, Base64Url.encode, String.toList_ofList, Base64Url.length_encodeChars,
      Digest.length_toList, length]

/-- The characters of a spelling: digits and the first six small letters, or letters, digits, `-`
and `_`. -/
def IsDigit : HashEncoding → Char → Prop
  | .hex, c => '0' ≤ c ∧ c ≤ '9' ∨ 'a' ≤ c ∧ c ≤ 'f'
  | .base64url, c =>
    'A' ≤ c ∧ c ≤ 'Z' ∨ 'a' ≤ c ∧ c ≤ 'z' ∨ '0' ≤ c ∧ c ≤ '9' ∨ c = '-' ∨ c = '_'

/-- The bytes of a spelled digest. -/
def read? : HashEncoding → String → Option (List UInt8)
  | .hex => Hex.decode?
  | .base64url => Base64Url.decode?

theorem forall_mem_spell {P : HashEncoding → Char → Prop} (hhex : ∀ n < 16, P .hex (Hex.digit n))
    (hbase : ∀ n < 64, P .base64url (Base64Url.digit n)) (e : HashEncoding) (d : Digest) :
    ∀ c ∈ (e.spell d).toList, P e c := by
  cases e with
  | hex =>
    rw [spell, Hex.encode, String.toList_ofList]
    exact Hex.forall_mem_encodeChars hhex _
  | base64url =>
    rw [spell, Base64Url.encode, String.toList_ofList]
    exact Base64Url.forall_mem_encodeChars hbase _

theorem isDigit_spell (e : HashEncoding) (d : Digest) : ∀ c ∈ (e.spell d).toList, e.IsDigit c :=
  forall_mem_spell (by unfold IsDigit; decide) (by unfold IsDigit; decide) e d

/-- A digest is read from its spelling. -/
theorem read?_spell (e : HashEncoding) (d : Digest) : e.read? (e.spell d) = some d.toList := by
  cases e with
  | hex =>
    rw [spell, read?, Hex.decode?, Hex.encode, String.toList_ofList, Hex.decodeChars?_encodeChars]
  | base64url =>
    rw [spell, read?, Base64Url.decode?, Base64Url.encode, String.toList_ofList,
      Base64Url.decodeChars?_encodeChars]

/-- Different digests have different spellings. -/
theorem spell_injective {e : HashEncoding} {d d' : Digest} (h : e.spell d = e.spell d') :
    d = d' := by
  have hread := e.read?_spell d
  rw [h, read?_spell] at hread
  exact Digest.toList_injective (Option.some.inj hread).symm

theorem isNameChar_spell (e : HashEncoding) (d : Digest) : ∀ c ∈ (e.spell d).toList, IsNameChar c :=
  forall_mem_spell (P := fun _ c => IsNameChar c) (by decide) (by decide) e d

end HashEncoding

end ImageImports
