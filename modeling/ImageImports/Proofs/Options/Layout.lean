import ImageImports.Proofs.Options.Kinds
import Mathlib.Data.List.Nodup

/-!
# Layouts of records

A record has a slot for each of its members, which says where the value of the member stands and of
which kind it is. From left to right, every known member puts its value into its slot, and the other
slots stay. So the order of the members does not matter, and neither do members in between that the
record does not know.

An object lists a record if every member with a known name shows what stands in its slot, no known
name comes twice, and a slot without a member has its start value. The other members are arbitrary,
as long as their names are texts. An object is spoiled if the value of a known member does not fit,
or if a known name comes twice, wherever that is and whatever else the object has.

## Main definitions

* `Options.Slot`, `Options.Layout`: the slots of a record, each with its name.
* `Options.Layout.Lists`: an object lists a record.
* `Options.Layout.Spoils`: an object is spoiled.
* `Options.Layout.kind`: records as a kind of values.

## Main results

* `Options.Layout.decodeMembers_of_lists`: what an object lists is read.
* `Options.Layout.fits_of_decodeMembers`: an object that is read is not spoiled.
* `Options.lists_plainMembers`: objects that list a record.
-/

namespace ImageImports.Options

open Json

/-! ### Slots and layouts -/

/-- A slot of a record: its name, the kind of its value, and how the value is got and put. -/
structure Slot (σ : Type) where
  {α : Type}
  name : String
  kind : Kind α
  get : σ → α
  put : α → σ → σ

namespace Slot

variable {σ : Type}

/-- The member that is read into a slot. -/
def member (s : Slot σ) : Member σ := .of s.name s.kind.decode s.put

/-- A member of an object has the name of a slot. -/
def Names (s : Slot σ) (entry : List Mark × Value) : Prop := Denotes entry.1 s.name.toList

end Slot

/-- The slots of a record, with different names. What is put into a slot stands there and changes no
other slot, and a record has nothing but its slots. -/
structure Layout (σ : Type) where
  slots : List (Slot σ)
  nodup : (slots.map Slot.name).Nodup
  get_put : ∀ s ∈ slots, ∀ o r : σ, s.get (s.put (s.get o) r) = s.get o
  get_put_of_ne : ∀ s ∈ slots, ∀ t ∈ slots, s.name ≠ t.name →
    ∀ (a : t.α) (r : σ), s.get (t.put a r) = s.get r
  ext : ∀ o r : σ, (∀ s ∈ slots, s.get o = s.get r) → o = r

namespace Layout

variable {σ : Type} (L : Layout σ)

/-- The members of a record. -/
def members : List (Member σ) := L.slots.map Slot.member

/-- The members of an object list a record, given the values that its slots have at the start. -/
structure Lists (start o : σ) (entries : List (List Mark × Value)) : Prop where
  named : ∀ entry ∈ entries, ∃ name : String, Denotes entry.1 name.toList
  shows : ∀ s ∈ L.slots, ∀ entry ∈ entries, s.Names entry → s.kind.Shows entry.2 (s.get o)
  once : ∀ s ∈ L.slots, entries.Pairwise fun first second => ¬ (s.Names first ∧ s.Names second)
  absent : ∀ s ∈ L.slots, (∀ entry ∈ entries, ¬ s.Names entry) → s.get o = s.get start

/-- The members of an object spoil it: one of them does not fit, or two of them have the name of one
slot. -/
inductive Spoils (entries : List (List Mark × Value)) : Prop
  | misfit {s : Slot σ} {entry : List Mark × Value} (hs : s ∈ L.slots) (hentry : entry ∈ entries)
      (hname : s.Names entry) (h : s.kind.Misfits entry.2)
  | twice {s : Slot σ} {first second : List Mark × Value} (hs : s ∈ L.slots)
      (hsub : [first, second].Sublist entries) (hfirst : s.Names first) (hsecond : s.Names second)

/-! ### Members and their slots -/

variable {L}

theorem eq_of_name_eq {s t : Slot σ} (hs : s ∈ L.slots) (ht : t ∈ L.slots)
    (h : s.name = t.name) : s = t :=
  List.inj_on_of_nodup_map L.nodup hs ht h

theorem find?_member {s : Slot σ} (hs : s ∈ L.slots) :
    L.members.find? (·.name == s.name) = some s.member := by
  have hfound : L.slots.find? (fun t => t.member.name == s.name) = some s := by
    cases hfind : L.slots.find? (fun t => t.member.name == s.name) with
    | none => exact absurd (List.find?_eq_none.mp hfind s hs) (by simp [Slot.member, Member.of])
    | some t =>
      have hname : t.name = s.name := by simpa [Slot.member, Member.of] using List.find?_some hfind
      rw [eq_of_name_eq (List.mem_of_find?_eq_some hfind) hs hname]
  rw [members, List.find?_map, Function.comp_def, hfound, Option.map_some]

theorem find?_eq_none {name : String} (h : ∀ s ∈ L.slots, s.name ≠ name) :
    L.members.find? (·.name == name) = none := by
  rw [members, List.find?_map, Option.map_eq_none_iff, List.find?_eq_none]
  intro s hs
  simpa [Slot.member, Member.of] using h s hs

variable {marks : List Mark} {v : Value} {rest : List (List Mark × Value)} {seen : List String}
  {r o : σ} {s : Slot σ}

/-- A member with the name of a slot is read into it, unless the name was met before. -/
theorem decodeMembers_of_names (hs : s ∈ L.slots) (h : s.Names (marks, v)) :
    decodeMembers L.members (Value.draftMembers ((marks, v) :: rest)) seen r =
      if seen.contains s.name then .error (.duplicateMember s.name)
      else s.kind.decode v.draft >>= fun a =>
        decodeMembers L.members (Value.draftMembers rest) (s.name :: seen) (s.put a r) := by
  have hname : decodeText .text (.string (marks.map Mark.piece)) = .ok s.name :=
    decodeText_eq_ok_iff.mpr h
  rw [Value.draftMembers, decodeMembers, hname]
  dsimp only [bind, Except.bind]
  rw [find?_member hs]
  cases hdecode : s.kind.decode v.draft <;>
    simp [Slot.member, Member.of, hdecode, Except.map]

/-- A member with another name is skipped. -/
theorem decodeMembers_of_unknown {name : String} (h : ∀ s ∈ L.slots, s.name ≠ name)
    (hname : Denotes marks name.toList) :
    decodeMembers L.members (Value.draftMembers ((marks, v) :: rest)) seen r =
      decodeMembers L.members (Value.draftMembers rest) seen r := by
  have htext : decodeText .text (.string (marks.map Mark.piece)) = .ok name :=
    decodeText_eq_ok_iff.mpr hname
  rw [Value.draftMembers, decodeMembers, htext]
  dsimp only [bind, Except.bind]
  rw [find?_eq_none h]
  dsimp only
  rw [if_pos v.isWhole_draft]

/-! ### Listed records are read -/

theorem Lists.put (h : L.Lists r o ((marks, v) :: rest)) (hs : s ∈ L.slots)
    (hname : s.Names (marks, v)) : L.Lists (s.put (s.get o) r) o rest where
  named entry hentry := h.named entry (List.mem_cons_of_mem _ hentry)
  shows t ht entry hentry := h.shows t ht entry (List.mem_cons_of_mem _ hentry)
  once t ht := (h.once t ht).of_cons
  absent t ht hrest := by
    by_cases heq : t.name = s.name
    · obtain rfl := eq_of_name_eq ht hs heq
      exact (L.get_put t ht o r).symm
    · rw [L.get_put_of_ne t ht s hs heq]
      refine h.absent t ht (List.forall_mem_cons.mpr ⟨fun hfirst => heq ?_, hrest⟩)
      exact String.toList_inj.mp (Denotes.unique hfirst hname)

theorem Lists.skip (h : L.Lists r o ((marks, v) :: rest))
    (hname : ∀ s ∈ L.slots, ¬ s.Names (marks, v)) : L.Lists r o rest where
  named entry hentry := h.named entry (List.mem_cons_of_mem _ hentry)
  shows t ht entry hentry := h.shows t ht entry (List.mem_cons_of_mem _ hentry)
  once t ht := (h.once t ht).of_cons
  absent t ht hrest := h.absent t ht (List.forall_mem_cons.mpr ⟨hname t ht, hrest⟩)

/-- What the members of an object list is read from them, whatever their order is. -/
theorem decodeMembers_of_lists {entries : List (List Mark × Value)} (h : L.Lists r o entries)
    (hseen : ∀ s ∈ L.slots, s.name ∈ seen → ∀ entry ∈ entries, ¬ s.Names entry) :
    decodeMembers L.members (Value.draftMembers entries) seen r = .ok o := by
  induction entries generalizing seen r with
  | nil =>
    have heq : o = r := L.ext o r fun s hs => h.absent s hs (by simp)
    rw [Value.draftMembers, decodeMembers, heq]
  | cons entry rest ih =>
    obtain ⟨marks, v⟩ := entry
    by_cases hknown : ∃ s ∈ L.slots, s.Names (marks, v)
    · obtain ⟨s, hs, hname⟩ := hknown
      have hnew : s.name ∉ seen := fun hmem => hseen s hs hmem _ List.mem_cons_self hname
      rw [decodeMembers_of_names hs hname, if_neg (by simpa using hnew),
        s.kind.decode_of_shows (h.shows s hs _ List.mem_cons_self hname)]
      refine ih (h.put hs hname) fun t ht hmem entry hentry => ?_
      obtain heq | hmem := List.mem_cons.mp hmem
      · -- No name comes twice.
        obtain rfl := eq_of_name_eq ht hs heq
        exact fun hagain => List.rel_of_pairwise_cons (h.once t ht) hentry ⟨hname, hagain⟩
      · exact hseen t ht hmem entry (List.mem_cons_of_mem _ hentry)
    · have hskip : ∀ s ∈ L.slots, ¬ s.Names (marks, v) := fun s hs hname => hknown ⟨s, hs, hname⟩
      obtain ⟨name, hname⟩ := h.named _ List.mem_cons_self
      have hother : ∀ s ∈ L.slots, s.name ≠ name := fun s hs heq =>
        hskip s hs (by rw [Slot.Names, heq]; exact hname)
      rw [decodeMembers_of_unknown hother hname]
      exact ih (h.skip hskip) fun t ht hmem entry hentry =>
        hseen t ht hmem entry (List.mem_cons_of_mem _ hentry)

/-! ### Spoiled records are refused -/

/-- The members of an object fit a record, where some names were met before. -/
structure Fits (L : Layout σ) (seen : List String) (entries : List (List Mark × Value)) :
    Prop where
  fits : ∀ s ∈ L.slots, ∀ entry ∈ entries, s.Names entry → ¬ s.kind.Misfits entry.2
  unseen : ∀ s ∈ L.slots, s.name ∈ seen → ∀ entry ∈ entries, ¬ s.Names entry
  once : ∀ s ∈ L.slots, entries.Pairwise fun first second => ¬ (s.Names first ∧ s.Names second)

theorem Spoils.not_fits {entries : List (List Mark × Value)} (h : L.Spoils entries) :
    ¬ L.Fits seen entries := by
  intro hfits
  cases h with
  | misfit hs hentry hname hmisfits => exact hfits.fits _ hs _ hentry hname hmisfits
  | twice hs hsub hfirst hsecond =>
    have hpair := (hfits.once _ hs).sublist hsub
    exact List.rel_of_pairwise_cons hpair List.mem_cons_self ⟨hfirst, hsecond⟩

/-- What is read has members that fit. -/
theorem fits_of_decodeMembers {entries : List (List Mark × Value)}
    (h : decodeMembers L.members (Value.draftMembers entries) seen r = .ok o) :
    L.Fits seen entries := by
  induction entries generalizing seen r with
  | nil => exact ⟨by simp, by simp, by simp⟩
  | cons entry rest ih =>
    obtain ⟨marks, v⟩ := entry
    by_cases hknown : ∃ s ∈ L.slots, s.Names (marks, v)
    · obtain ⟨s, hs, hname⟩ := hknown
      have honly {t : Slot σ} (ht : t ∈ L.slots) (htname : t.Names (marks, v)) : t = s :=
        eq_of_name_eq ht hs (String.toList_inj.mp (Denotes.unique htname hname))
      rw [decodeMembers_of_names hs hname] at h
      split at h
      next => cases h
      next hseen =>
        obtain ⟨a, ha, hrest⟩ := bind_eq_ok_iff.mp h
        have hfits := ih hrest
        refine ⟨fun t ht => ?_, fun t ht hmem => ?_, fun t ht => ?_⟩
        · refine List.forall_mem_cons.mpr ⟨fun htname => ?_, hfits.fits t ht⟩
          obtain rfl := honly ht htname
          exact fun hmisfits => t.kind.ne_of_misfits hmisfits a ha
        · refine List.forall_mem_cons.mpr ⟨fun htname => ?_,
            hfits.unseen t ht (List.mem_cons_of_mem _ hmem)⟩
          obtain rfl := honly ht htname
          exact hseen (by simpa using hmem)
        · refine List.pairwise_cons.mpr ⟨fun entry hentry hboth => ?_, hfits.once t ht⟩
          obtain rfl := honly ht hboth.1
          exact hfits.unseen t ht List.mem_cons_self entry hentry hboth.2
    · have hskip : ∀ s ∈ L.slots, ¬ s.Names (marks, v) := fun s hs hname => hknown ⟨s, hs, hname⟩
      obtain ⟨name, hname⟩ : ∃ name : String, Denotes marks name.toList := by
        rw [Value.draftMembers, decodeMembers] at h
        obtain ⟨name, hname, -⟩ := bind_eq_ok_iff.mp h
        exact ⟨name, decodeText_eq_ok_iff.mp hname⟩
      have hother : ∀ s ∈ L.slots, s.name ≠ name := fun s hs heq =>
        hskip s hs (by rw [Slot.Names, heq]; exact hname)
      rw [decodeMembers_of_unknown hother hname] at h
      have hfits := ih h
      exact ⟨fun t ht => List.forall_mem_cons.mpr
          ⟨fun htname => absurd htname (hskip t ht), hfits.fits t ht⟩,
        fun t ht hmem => List.forall_mem_cons.mpr ⟨hskip t ht, hfits.unseen t ht hmem⟩,
        fun t ht => List.pairwise_cons.mpr
          ⟨fun _ _ hboth => hskip t ht hboth.1, hfits.once t ht⟩⟩

/-! ### Records as values -/

/-- Records, which objects list. -/
def kind (L : Layout σ) (expected : Expected) (start : σ) : Kind σ where
  decode := decodeRecord L.members expected start
  Shows v o := ∃ entries, v = .object entries ∧ L.Lists start o entries
  Misfits v := ∃ entries, v = .object entries ∧ L.Spoils entries
  decode_of_shows := by
    rintro _ o ⟨entries, rfl, h⟩
    rw [Value.draft, decodeRecord, decodeMembers_of_lists h (by simp)]
    rfl
  ne_of_misfits := by
    rintro _ ⟨entries, rfl, h⟩ o ho
    rw [Value.draft, decodeRecord] at ho
    obtain ⟨record, hrecord, -⟩ := bind_eq_ok_iff.mp ho
    exact h.not_fits (fits_of_decodeMembers hrecord)

end Layout

/-! ### Members without escapes -/

/-- A member of an object whose name has no escapes. -/
def plainMember (name : String) (v : Value) : List Mark × Value := (name.toList.map .char, v)

theorem names_plainMember {σ : Type} {s : Slot σ} {name : String} {v : Value} :
    s.Names (plainMember name v) ↔ s.name = name := by
  constructor
  · exact fun h => String.toList_inj.mp (h.unique (.map_char _))
  · rintro rfl
    exact .map_char _

/-- Members without escapes list a record if their names differ, each of them shows what stands in
the slot of its name, and the other slots have their start values. -/
theorem lists_plainMembers {σ : Type} {L : Layout σ} {start o : σ}
    (members : List (String × Value)) (hnames : (members.map Prod.fst).Nodup)
    (hshows : ∀ s ∈ L.slots, ∀ m ∈ members, s.name = m.1 → s.kind.Shows m.2 (s.get o))
    (habsent : ∀ s ∈ L.slots, s.name ∉ members.map Prod.fst → s.get o = s.get start) :
    L.Lists start o (members.map fun m => plainMember m.1 m.2) where
  named := List.forall_mem_map.mpr fun m _ => ⟨m.1, .map_char _⟩
  shows s hs := List.forall_mem_map.mpr fun m hm hname =>
    hshows s hs m hm (names_plainMember.mp hname)
  once s _ := List.pairwise_map.mpr ((List.pairwise_map.mp hnames).imp fun hne hboth =>
    hne ((names_plainMember.mp hboth.1).symm.trans (names_plainMember.mp hboth.2)))
  absent s hs hnone := habsent s hs fun hmem => by
    obtain ⟨m, hm, heq⟩ := List.mem_map.mp hmem
    exact hnone _ (List.mem_map_of_mem hm) (names_plainMember.mpr heq.symm)

end ImageImports.Options
