import ImageImports.Options.Decode
import ImageImports.Proofs.Json.Number
import ImageImports.Proofs.Json.Strings
import Mathlib.Data.List.Forall2

/-!
# Kinds of option values

A kind of values says which value of a text shows which value of an option, and which values of a
text do not fit. Its decoder reads what is shown, and refuses what does not fit. Where it does
neither, as with an object that names a choice, the kind says nothing.

## Main definitions

* `Options.Kind`: a kind of values with its decoder.
* `Options.Kind.text`, `Options.Kind.path`, `Options.Kind.bool`, `Options.Kind.natural`,
  `Options.Kind.choice`: texts, paths, truth values, numbers of a width, and names of choices.
* `Options.Kind.optional`, `Options.Kind.list`: values that may be absent, and lists of values.

## Main results

* `Options.decodeNumber_eq_ok_iff`: which numbers are read within a width.
-/

namespace ImageImports.Options

open Json

/-- A kind of values: how they are decoded, which of them a value of a text shows, and which values
of a text do not fit. What is shown is read, and what does not fit is refused. -/
structure Kind (α : Type) where
  decode : Draft → Except OptionsError α
  Shows : Value → α → Prop
  Misfits : Value → Prop
  decode_of_shows : ∀ {v : Value} {a : α}, Shows v a → decode v.draft = .ok a
  ne_of_misfits : ∀ {v : Value}, Misfits v → ∀ a, decode v.draft ≠ .ok a

theorem bind_eq_ok_iff {α β : Type} {x : Except OptionsError α} {f : α → Except OptionsError β}
    {b : β} : x >>= f = .ok b ↔ ∃ a, x = .ok a ∧ f a = .ok b := by
  cases x with
  | error e => exact iff_of_false nofun (by rintro ⟨_, ⟨⟩, _⟩)
  | ok a => exact ⟨fun h => ⟨a, rfl, h⟩, by rintro ⟨_, ⟨⟩, h⟩; exact h⟩

/-! ### Texts -/

/-- A value is a string that stands for a text. -/
def ShowsText (v : Value) (text : String) : Prop :=
  ∃ marks, v = .string marks ∧ Denotes marks text.toList

theorem decodeText_eq_ok_iff {expected : Expected} {marks : List Mark} {text : String} :
    decodeText expected (.string (marks.map Mark.piece)) = .ok text ↔
      Denotes marks text.toList := by
  rw [← decodePieces?_eq_some_iff, decodeText]
  cases decodePieces? (marks.map Mark.piece) <;> simp

theorem decodeText_of_showsText {expected : Expected} {v : Value} {text : String}
    (h : ShowsText v text) : decodeText expected v.draft = .ok text := by
  obtain ⟨marks, rfl, hmarks⟩ := h
  exact decodeText_eq_ok_iff.mpr hmarks

namespace Kind

/-- Texts, which are strings. -/
def text (expected : Expected) : Kind String where
  decode := decodeText expected
  Shows := ShowsText
  Misfits v := v.IsOtherScalar .string
  decode_of_shows := decodeText_of_showsText
  ne_of_misfits {v} h a := by
    cases v with
    | string => exact absurd rfl h.ne
    | _ => nofun

/-- Paths, which are given by texts. -/
def path : Kind Path where
  decode := decodePath
  Shows v p := ∃ text, ShowsText v text ∧ p = .ofText text
  Misfits v := v.IsOtherScalar .string
  decode_of_shows := by
    rintro v _ ⟨text, htext, rfl⟩
    rw [decodePath, decodeText_of_showsText htext]
    rfl
  ne_of_misfits {v} h a := by
    cases v with
    | string => exact absurd rfl h.ne
    | _ => nofun

/-! ### Truth values and numbers -/

/-- Truth values. -/
def bool : Kind Bool where
  decode := decodeBool
  Shows v value := v = .bool value
  Misfits v := v.IsOtherScalar .bool
  decode_of_shows := by
    rintro _ _ rfl
    rfl
  ne_of_misfits {v} h a := by
    cases v with
    | bool => exact absurd rfl h.ne
    | _ => nofun

end Kind

/-- A number is read within a width of at most 64 bits exactly if it is natural and fits. -/
theorem decodeNumber_eq_ok_iff {bits : Nat} (hbits : bits ≤ 64) {literal : Literal} {n : Nat} :
    decodeNumber bits (.number literal) = .ok n ↔
      literal.natural? = some n ∧ n < Nat.pow 2 bits := by
  have hlimit (hn : n < Nat.pow 2 bits) : n ≤ Literal.wordLimit :=
    Nat.le_sub_one_of_lt (Nat.lt_of_lt_of_le hn (Nat.pow_le_pow_right (by decide) hbits))
  constructor
  · intro h
    rw [decodeNumber] at h
    split at h
    next k hvalue =>
      split at h
      next hk =>
        have hn : k.toNat = n := Except.ok.inj h
        rw [← Int.toNat_of_nonneg hk.1, hn] at hvalue hk
        exact ⟨(Literal.value?_eq_natural_iff.mp hvalue).1, Int.ofNat_lt.mp hk.2⟩
      next => cases h
    next => cases h
  · rintro ⟨hnatural, hn⟩
    have hvalue := Literal.value?_eq_natural_iff.mpr ⟨hnatural, hlimit hn⟩
    have hk : (0 : Int) ≤ n ∧ (n : Int) < Nat.pow 2 bits :=
      ⟨Int.natCast_nonneg n, Int.ofNat_lt.mpr hn⟩
    rw [decodeNumber, hvalue]
    dsimp only
    rw [if_pos hk, Int.toNat_natCast]

namespace Kind

/-- Numbers without sign, point and exponent that fit into a width. -/
def natural (bits : Nat) (hbits : bits ≤ 64) : Kind Nat where
  decode := decodeNumber bits
  Shows v n := ∃ literal, v = .number literal ∧ literal.natural? = some n ∧ n < Nat.pow 2 bits
  Misfits v := v.IsOtherScalar .number ∨
    ∃ literal, v = .number literal ∧ ∀ n, literal.natural? = some n → Nat.pow 2 bits ≤ n
  decode_of_shows := by
    rintro _ _ ⟨literal, rfl, hn⟩
    exact (decodeNumber_eq_ok_iff hbits).mpr hn
  ne_of_misfits := by
    rintro v (h | ⟨literal, rfl, hwide⟩) n
    · cases v with
      | number => exact absurd rfl h.ne
      | _ => nofun
    · intro hn
      obtain ⟨hnatural, hlt⟩ := (decodeNumber_eq_ok_iff hbits).mp hn
      exact absurd (hwide n hnatural) (Nat.not_le.mpr hlt)

/-! ### Choices -/

/-- Choices, shown by their names. -/
def choice {α : Type} (choices : List (String × α)) : Kind α where
  decode := decodeChoice choices
  Shows v a := ∃ name, choices.lookup name = some a ∧ ShowsText v name
  Misfits v := v.IsOtherScalar .string ∨
    ∃ marks, v = .string marks ∧ ∀ choice ∈ choices, ¬ Denotes marks choice.1.toList
  decode_of_shows := by
    rintro _ a ⟨name, hname, marks, rfl, hmarks⟩
    rw [Value.draft, decodeChoice, decodeText_eq_ok_iff.mpr hmarks]
    change findChoice choices name = _
    rw [findChoice, hname]
  ne_of_misfits := by
    rintro v (h | ⟨marks, rfl, hmarks⟩) a
    · cases v with
      | string => exact absurd rfl h.ne
      | object => exact absurd rfl h.notObject
      | _ => nofun
    · intro ha
      obtain ⟨name, hname, hchoice⟩ := bind_eq_ok_iff.mp ha
      rw [findChoice] at hchoice
      split at hchoice
      next found =>
        obtain ⟨before, after, rfl, -⟩ := List.lookup_eq_some_iff.mp found
        exact hmarks _ (List.mem_append_right _ List.mem_cons_self)
          (decodeText_eq_ok_iff.mp hname)
      next => cases hchoice

end Kind

/-! ### Absent values and lists -/

theorem decodeOptional_draft {α : Type} {decode : Draft → Except OptionsError α} {v : Value}
    (h : v.ty ≠ .null) : decodeOptional decode v.draft = (decode v.draft).map some := by
  cases v with
  | null => exact absurd rfl h
  | _ => rfl

theorem mapM_eq_ok_iff {α β : Type} {decode : α → Except OptionsError β} {elements : List α}
    {values : List β} :
    elements.mapM decode = .ok values ↔ List.Forall₂ (decode · = .ok ·) elements values := by
  induction elements generalizing values with
  | nil => cases values <;> simp [pure, Except.pure]
  | cons element rest ih =>
    rw [List.mapM_cons, bind_eq_ok_iff, List.forall₂_cons_left_iff]
    refine exists_congr fun value => ?_
    simp only [bind_eq_ok_iff, ih, exists_and_left]
    refine and_congr_right fun _ => exists_congr fun others => ?_
    exact and_congr_right fun _ => ⟨fun h => (Except.ok.inj h).symm, fun h => h ▸ rfl⟩

namespace Kind

/-- Values that may be absent, which null says. -/
def optional {α : Type} (kind : Kind α) : Kind (Option α) where
  decode := decodeOptional kind.decode
  Shows v value := match value with
    | none => v = .null
    | some a => v.ty ≠ .null ∧ kind.Shows v a
  Misfits v := v.ty ≠ .null ∧ kind.Misfits v
  decode_of_shows := by
    rintro v (_ | a) h
    · cases h
      rfl
    · rw [decodeOptional_draft h.1, kind.decode_of_shows h.2]
      rfl
  ne_of_misfits := by
    rintro v ⟨hnull, hmisfits⟩ value hvalue
    rw [decodeOptional_draft hnull] at hvalue
    cases hdecode : kind.decode v.draft with
    | error => rw [hdecode] at hvalue; cases hvalue
    | ok a => exact kind.ne_of_misfits hmisfits a hdecode

/-- Lists of values, which are arrays. -/
def list {α : Type} (kind : Kind α) : Kind (List α) where
  decode := decodeList kind.decode
  Shows v values := ∃ elements, v = .array elements ∧ List.Forall₂ kind.Shows elements values
  Misfits v := v.IsOtherScalar .array ∨
    ∃ elements, v = .array elements ∧ ∃ element ∈ elements, kind.Misfits element
  decode_of_shows := by
    rintro _ values ⟨elements, rfl, hshows⟩
    have hvalues : (elements.map Value.draft).mapM kind.decode = .ok values :=
      mapM_eq_ok_iff.mpr (List.forall₂_map_left_iff.mpr
        (hshows.imp fun _ _ => kind.decode_of_shows))
    rw [Value.draft, decodeList, Value.draftElements_eq_map, hvalues]
    rfl
  ne_of_misfits := by
    rintro v (h | ⟨elements, rfl, element, hmem, hmisfits⟩) values
    · cases v with
      | array => exact absurd rfl h.ne
      | object => exact absurd rfl h.notObject
      | _ => nofun
    · intro hvalues
      rw [Value.draft, decodeList, Value.draftElements_eq_map] at hvalues
      obtain ⟨found, hfound, -⟩ := bind_eq_ok_iff.mp hvalues
      have hall := List.forall₂_map_left_iff.mp (mapM_eq_ok_iff.mp hfound)
      obtain ⟨hread, -⟩ := (List.forall₂_and_left _ _).mp (hall.imp fun element a h =>
        ⟨show ∃ a, kind.decode element.draft = .ok a from ⟨a, h⟩, h⟩)
      obtain ⟨a, ha⟩ := hread element hmem
      exact kind.ne_of_misfits hmisfits a ha

end Kind

end ImageImports.Options
