import ImageImports.Proofs.Json.Values
import ImageImports.Proofs.Options.Layout

/-!
# Options member by member

The options and the retry options are read by their layouts, member by member. So a JSON text that
lists some options is read as these options, in whatever order it names them and whatever else it
holds, and a text with a member that does not fit or comes twice is refused.

## Main definitions

* `Options.retryLayout`, `Options.layout`: the slots of the retry options and of the options.

## Main results

* `Options.decoding_is_fieldwise`: what is read from a text that writes an object.
-/

namespace ImageImports.Options

open Json

/-- The layout of the retry options: their members are numbers and a list of numbers. -/
def retryLayout : Layout RetryOptions where
  slots :=
    [⟨"retries", .natural 32 (by decide), fun o => o.retries.toNat,
        fun n o => { o with retries := n.toUInt32 }⟩,
      ⟨"delayMs", .natural 64 (by decide), fun o => o.delayMs.toNat,
        fun n o => { o with delayMs := n.toUInt64 }⟩,
      ⟨"statuses", .list (.natural 16 (by decide)), fun o => o.statuses.map UInt16.toNat,
        fun ns o => { o with statuses := ns.map Nat.toUInt16 }⟩]
  nodup := by decide
  get_put := by simp [Function.comp_def]
  get_put_of_ne := by simp
  ext o r h := by
    simp only [List.forall_mem_cons, UInt32.toNat_inj, UInt64.toNat_inj] at h
    obtain ⟨hretries, hdelay, hstatuses, -⟩ := h
    have hstatuses := List.map_injective_iff.mpr (fun _ _ => UInt16.toNat_inj.mp) hstatuses
    cases o
    cases r
    rw [RetryOptions.mk.injEq]
    exact ⟨hretries, hdelay, hstatuses⟩

/-- The layout of the options: a path, a text, choices, a truth value, a number that may be absent,
and the retry options. -/
def layout : Layout Options where
  slots :=
    [⟨"cacheDirectory", .optional .path, fun o => o.cacheDirectory,
        fun value o => { o with cacheDirectory := value }⟩,
      ⟨"factoryPattern", .text .text, fun o => o.factoryPattern,
        fun value o => { o with factoryPattern := value }⟩,
      ⟨"hashEncoding", .choice encodingChoices, fun o => o.hashEncoding,
        fun value o => { o with hashEncoding := value }⟩,
      ⟨"identifiers", .choice identifierChoices, fun o => o.identifiers,
        fun value o => { o with identifiers := value }⟩,
      ⟨"skipExisting", .bool, fun o => o.skipExisting,
        fun value o => { o with skipExisting := value }⟩,
      ⟨"timeoutMs", .optional (.natural 64 (by decide)), fun o => o.timeoutMs.map UInt64.toNat,
        fun value o => { o with timeoutMs := value.map Nat.toUInt64 }⟩,
      ⟨"retry", retryLayout.kind .retryOptions {}, fun o => o.retry,
        fun value o => { o with retry := value }⟩]
  nodup := by decide
  get_put := by simp [Function.comp_def]
  get_put_of_ne := by simp
  ext o r h := by
    simp only [List.forall_mem_cons] at h
    obtain ⟨hdirectory, hpattern, hencoding, hidentifiers, hskip, htimeout, hretry, -⟩ := h
    have htimeout := Option.map_injective (fun _ _ => UInt64.toNat_inj.mp) htimeout
    cases o
    cases r
    rw [Options.mk.injEq]
    exact ⟨hdirectory, hpattern, hencoding, hidentifiers, hskip, htimeout, hretry⟩

theorem members_layout : layout.members = members := rfl

/-- A text that writes an object is read member by member: options that its members list are what
is read, in whatever order they come and whatever other members stand between them, and if they
spoil the options, then nothing is read. -/
theorem decoding_is_fieldwise {text : String} {entries : List (List Mark × Value)}
    (h : (Value.object entries).IsWrittenAs text) :
    (∀ o : Options, layout.Lists {} o entries → ofJson text = .ok o) ∧
      (layout.Spoils entries → ∃ e, ofJson text = .error e) := by
  have hread : ofJson text = (layout.kind .options {}).decode (Value.object entries).draft := by
    rw [ofJson, h.ofTokens_eq, ← members_layout]
    exact bind_pure _
  rw [hread]
  refine ⟨fun o hlists => (layout.kind .options {}).decode_of_shows ⟨entries, rfl, hlists⟩,
    fun hspoils => ?_⟩
  have hne := (layout.kind .options {}).ne_of_misfits ⟨entries, rfl, hspoils⟩
  cases hdecode : (layout.kind .options {}).decode (Value.object entries).draft with
  | error e => exact ⟨e, rfl⟩
  | ok o => exact absurd hdecode (hne o)

/-! ### An object that lists options, and a spoiled one -/

/-- A number of one digit, also below zero. -/
def digit (negative : Bool) (c : Char) : Literal := ⟨negative, [c], none, none⟩

theorem numberText_digit (negative : Bool) {c : Char} (h : c.isDigit = true) :
    NumberText (digit negative c) ((if negative then ['-'] else []) ++ [c]) := by
  have hwhole : IsDigits (digit negative c).whole :=
    ⟨List.cons_ne_nil _ _, List.forall_mem_singleton.mpr h⟩
  exact .mk hwhole (by simp [digit]) .absent .absent

/-- Retry options in another order, with a member before them that is not known. -/
def reorderedRetry : List (List Mark × Value) :=
  [plainMember "note" (.array []), plainMember "delayMs" (.number (digit false '7'))]

/-- Options in another order. -/
def reordered : List (List Mark × Value) :=
  [plainMember "timeoutMs" .null, plainMember "retry" (.object reorderedRetry)]

/-- Options with a wait below zero. -/
def spoiled : List (List Mark × Value) :=
  [plainMember "retry" (.object [plainMember "delayMs" (.number (digit true '7'))])]

theorem isWrittenAs_reordered : (Value.object reordered).IsWrittenAs
    "\x7b\"timeoutMs\":null, \"retry\":\x7b\"note\":[], \"delayMs\":7\x7d\x7d" := by
  have h : Spells _ (Value.object reordered).tokens :=
    .fixed (s := ['{']) (by decide) <|
    .name (by decide +kernel) <|
    .fixed (s := ['n', 'u', 'l', 'l']) (by decide) <|
    .fixed (s := [',']) (by decide) <|
    .space <| .name (by decide +kernel) <|
    .fixed (s := ['{']) (by decide) <|
    .name (by decide +kernel) <|
    .fixed (s := ['[']) (by decide) <|
    .fixed (s := [']']) (by decide) <|
    .fixed (s := [',']) (by decide) <|
    .space <| .name (by decide +kernel) <|
    .number (numberText_digit false (by decide)) (by decide) <|
    .fixed (s := ['}']) (by decide) <|
    .fixed (s := ['}']) (by decide) <| .nil
  exact Eq.mp (congrArg (Spells · _) (by decide +kernel)) h

theorem isWrittenAs_spoiled : (Value.object spoiled).IsWrittenAs
    "\x7b\"retry\":\x7b\"delayMs\":-7\x7d\x7d" := by
  have h : Spells _ (Value.object spoiled).tokens :=
    .fixed (s := ['{']) (by decide) <|
    .name (by decide +kernel) <|
    .fixed (s := ['{']) (by decide) <|
    .name (by decide +kernel) <|
    .number (numberText_digit true (by decide)) (by decide) <|
    .fixed (s := ['}']) (by decide) <|
    .fixed (s := ['}']) (by decide) <| .nil
  exact Eq.mp (congrArg (Spells · _) (by decide +kernel)) h

theorem lists_reordered : layout.Lists {} { retry := { delayMs := 7 } } reordered := by
  have hretry : retryLayout.Lists {} { delayMs := 7 } reorderedRetry := by
    refine lists_plainMembers [("note", .array []), ("delayMs", .number (digit false '7'))]
      (by decide) ?_ ?_
    · have hdelay : (Kind.natural 64 (by decide)).Shows (.number (digit false '7')) 7 :=
        ⟨_, rfl, by decide, by decide⟩
      simpa [retryLayout] using hdelay
    · simp [retryLayout]
  refine lists_plainMembers [("timeoutMs", .null), ("retry", .object reorderedRetry)]
    (by decide) ?_ ?_
  · have htimeout : (Kind.natural 64 (by decide)).optional.Shows .null none := rfl
    have hshows : (retryLayout.kind .retryOptions {}).Shows (.object reorderedRetry)
        { delayMs := 7 } := ⟨_, rfl, hretry⟩
    simpa [layout] using ⟨htimeout, hshows⟩
  · simp [layout]

theorem spoils_spoiled : layout.Spoils spoiled := by
  have hretry : retryLayout.Spoils [plainMember "delayMs" (.number (digit true '7'))] :=
    .misfit (s := retryLayout.slots[1]) (List.getElem_mem _) List.mem_cons_self
      (names_plainMember.mpr rfl) (.inr ⟨_, rfl, nofun⟩)
  exact .misfit (s := layout.slots[6]) (List.getElem_mem _) List.mem_cons_self
    (names_plainMember.mpr rfl) ⟨_, rfl, hretry⟩

/-- One text lists its members in another order, leaves most of them out and has one that is not
known. The other text has a wait below zero. -/
theorem decoding_is_fieldwise_reordered :
    (Value.object reordered).IsWrittenAs
        "\x7b\"timeoutMs\":null, \"retry\":\x7b\"note\":[], \"delayMs\":7\x7d\x7d" ∧
      layout.Lists {} { retry := { delayMs := 7 } } reordered ∧
      ofJson "\x7b\"timeoutMs\":null, \"retry\":\x7b\"note\":[], \"delayMs\":7\x7d\x7d" =
        .ok { retry := { delayMs := 7 } } ∧
      (Value.object spoiled).IsWrittenAs "\x7b\"retry\":\x7b\"delayMs\":-7\x7d\x7d" ∧
      layout.Spoils spoiled ∧
      ∃ e, ofJson "\x7b\"retry\":\x7b\"delayMs\":-7\x7d\x7d" = .error e :=
  ⟨isWrittenAs_reordered, lists_reordered,
    (decoding_is_fieldwise isWrittenAs_reordered).1 _ lists_reordered,
    isWrittenAs_spoiled, spoils_spoiled,
    (decoding_is_fieldwise isWrittenAs_spoiled).2 spoils_spoiled⟩

end ImageImports.Options
