import ImageImports.Proofs.Source
import Mathlib.Data.List.TakeDrop
import Mathlib.Data.List.TakeWhile

/-!
# The path in the spelling of a URL

The parts of a URL that is read are escaped, so that none of them holds a character that would end
it. A colon ends the scheme, a slash ends the authority, and a `?` or a `#` ends the path. So the
path can be found in the spelling of the URL, and URLs with one spelling have one path.

## Main definitions

* `Url.Plain`: a text without characters that end an authority.
* `Url.Separable`: a URL whose path can be found in its spelling.
* `Url.spelledPath`: the path in the spelling of a URL.

## Main results

* `Url.spelledPath_render`: the path is found where it can be.
* `Url.separable_of_parse?`: it can be found in every URL that was read.
* `Url.path_eq_of_render_eq`: the spelling of a URL determines its path.
-/

namespace ImageImports.Url

variable {ascii : ToAscii} {scheme : String} {cs : List Char} {c : Char}

/-- A text without slashes, `?` and `#`. -/
def Plain (text : String) : Prop := ∀ c ∈ text.toList, endsAuthority false c = false

theorem plain_iff_all {text : String} :
    Plain text ↔ (text.toList.all fun c => !endsAuthority false c) = true := by
  simp [Plain]

instance (text : String) : Decidable (Plain text) := decidable_of_iff _ plain_iff_all.symm

/-- What is needed of the parts of a URL for its path to be found in its spelling. -/
structure Separable (url : Url) : Prop where
  scheme : ∀ c ∈ url.scheme.toList, c ≠ ':' ∧ endsPath c = false
  authority : ∀ a, url.authority = some a → Plain a.render
  path : ∀ c ∈ url.path.toList, endsPath c = false
  rooted : url.authority.isSome = true →
    url.path.toList = [] ∨ ∃ rest, url.path.toList = '/' :: rest
  undotted : url.authority = none → ∀ rest, url.path.toList ≠ '/' :: '.' :: '/' :: rest

/-- The path in the spelling of a URL, where that is known from the scheme on up to the end of the
path. -/
def pathAfterScheme (cs : List Char) : List Char :=
  match cs with
  | '/' :: '/' :: rest => rest.dropWhile (· ≠ '/')
  | '/' :: '.' :: '/' :: '/' :: rest => '/' :: '/' :: rest
  | path => path

/-- The path in the spelling of a URL. -/
def spelledPath (cs : List Char) : List Char :=
  pathAfterScheme (((cs.takeWhile (!endsPath ·)).dropWhile (· ≠ ':')).drop 1)

theorem endsPath_eq_false_iff : endsPath c = false ↔ c ≠ '?' ∧ c ≠ '#' := by
  simp [endsPath]

theorem endsAuthority_eq_false_iff :
    endsAuthority false c = false ↔ c ≠ '/' ∧ endsPath c = false := by
  simp [endsAuthority, isSlash]

/-! ### Finding the path -/

/-- The spelling of a URL is that of its parts up to the path, and then nothing or what a `?` or a
`#` opens. -/
theorem exists_toList_render (url : Url) : ∃ rest, url.render.toList =
    url.scheme.toList ++ ':' :: (url.beforePath.toList ++ url.path.toList) ++ rest ∧
      ∀ c ∈ rest.head?, endsPath c = true := by
  obtain ⟨scheme, authority, path, query, fragment⟩ := url
  refine ⟨(query.elim [] fun text => '?' :: text.toList) ++
    fragment.elim [] fun text => '#' :: text.toList, ?_, ?_⟩
  · cases query <;> cases fragment <;> simp [render]
  · cases query <;> cases fragment <;> simp [endsPath]

/-- A path is found after its authority, or after what keeps it from being taken for one. -/
theorem Separable.pathAfterScheme_beforePath {url : Url} (h : url.Separable) :
    pathAfterScheme (url.beforePath.toList ++ url.path.toList) = url.path.toList := by
  cases hauthority : url.authority with
  | some a =>
    have hplain : ∀ c ∈ a.render.toList, decide (c ≠ '/') = true := fun c hc =>
      decide_eq_true (endsAuthority_eq_false_iff.mp (h.authority a hauthority c hc)).1
    have hslashes : url.beforePath.toList ++ url.path.toList =
        '/' :: '/' :: (a.render.toList ++ url.path.toList) := by
      simp [beforePath, hauthority]
    rw [hslashes]
    refine (List.dropWhile_append_of_pos hplain).trans ?_
    rcases h.rooted (by rw [hauthority]; rfl) with hpath | ⟨rest, hpath⟩ <;> simp [hpath]
  | none =>
    have hundotted := h.undotted hauthority
    by_cases hdouble : ∃ rest, url.path.toList = '/' :: '/' :: rest
    · obtain ⟨rest, hpath⟩ := hdouble
      have hbefore : url.beforePath = "/." := by simp [beforePath, hauthority, hpath]
      simp [hbefore, hpath, pathAfterScheme]
    · have hbefore : url.beforePath = "" := by
        rw [beforePath, hauthority]
        dsimp only
        split
        next rest hpath => exact absurd ⟨rest, hpath⟩ hdouble
        next => rfl
      rw [hbefore, String.toList_empty, List.nil_append]
      unfold pathAfterScheme
      split
      next rest hpath => exact absurd ⟨rest, hpath⟩ hdouble
      next rest hpath => exact absurd hpath (hundotted _)
      next => rfl

/-- What stands before a path ends neither the path nor an authority too early. -/
theorem spelledPath_render {url : Url} (h : url.Separable) :
    spelledPath url.render.toList = url.path.toList := by
  obtain ⟨rest, hrender, hrest⟩ := url.exists_toList_render
  have hbefore : ∀ c ∈ url.beforePath.toList, endsPath c = false := by
    intro c hc
    unfold beforePath at hc
    split at hc
    next a hauthority =>
      rw [String.toList_append, List.mem_append] at hc
      rcases hc with hc | hc
      · obtain rfl : c = '/' := by simpa using hc
        rfl
      · exact (endsAuthority_eq_false_iff.mp (h.authority a hauthority c hc)).2
    next =>
      have hmark : c = '/' ∨ c = '.' := by
        revert hc
        split <;> simp
      rcases hmark with rfl | rfl <;> rfl
  have hmain : ∀ c ∈ url.scheme.toList ++ ':' :: (url.beforePath.toList ++ url.path.toList),
      (!endsPath c) = true := by
    intro c hc
    rw [Bool.not_eq_true']
    rcases List.mem_append.mp hc with hc | hc
    · exact (h.scheme c hc).2
    · rcases List.mem_cons.mp hc with rfl | hc
      · rfl
      · rcases List.mem_append.mp hc with hc | hc
        · exact hbefore c hc
        · exact h.path c hc
  have htaken : url.render.toList.takeWhile (!endsPath ·) =
      url.scheme.toList ++ ':' :: (url.beforePath.toList ++ url.path.toList) := by
    rw [hrender, List.takeWhile_append_of_pos hmain]
    cases rest with
    | nil => simp
    | cons c after => simp [hrest c rfl]
  have hscheme : ∀ c ∈ url.scheme.toList, decide (c ≠ ':') = true := fun c hc =>
    decide_eq_true (h.scheme c hc).1
  have hafter : ((url.render.toList.takeWhile (!endsPath ·)).dropWhile (· ≠ ':')).drop 1 =
      url.beforePath.toList ++ url.path.toList := by
    rw [htaken, List.dropWhile_append_of_pos hscheme]
    simp
  rw [spelledPath, hafter, h.pathAfterScheme_beforePath]

/-! ### Digits and escapes -/

theorem Plain.append {a b : String} (ha : Plain a) (hb : Plain b) : Plain (a ++ b) := by
  intro c hc
  rw [String.toList_append, List.mem_append] at hc
  exact hc.elim (ha c) (hb c)

theorem Plain.intercalate {separator : String} (hseparator : Plain separator) {texts : List String}
    (h : ∀ text ∈ texts, Plain text) : Plain (separator.intercalate texts) := by
  intro c hc
  rw [String.toList_intercalate] at hc
  induction texts with
  | nil => cases hc
  | cons first rest ih =>
    have hfirst := h first List.mem_cons_self
    cases rest with
    | nil => exact hfirst c (by simpa using hc)
    | cons second others =>
      rw [List.map_cons, List.map_cons, List.intercalate_cons_cons, List.mem_append,
        List.mem_append] at hc
      rcases hc with (hc | hc) | hc
      · exact hfirst c hc
      · exact hseparator c hc
      · exact ih (fun text hmem => h text (List.mem_cons_of_mem _ hmem)) hc

theorem digitChar_of_le {n : Nat} (h : 16 ≤ n) : Nat.digitChar n = '*' := by
  unfold Nat.digitChar
  repeat rw [if_neg (by omega)]

theorem endsAuthority_digitChar (n : Nat) : endsAuthority false n.digitChar = false := by
  have hall : ∀ n < 16, endsAuthority false (Nat.digitChar n) = false := by decide
  by_cases hn : n < 16
  · exact hall n hn
  · rw [digitChar_of_le (Nat.not_lt.mp hn)]
    rfl

theorem endsAuthority_capitalDigit (n : Nat) : endsAuthority false (capitalDigit n) = false := by
  have hall : ∀ n < 16, endsAuthority false (capitalDigit n) = false := by decide
  by_cases hn : n < 16
  · exact hall n hn
  · rw [capitalDigit, digitChar_of_le (Nat.not_lt.mp hn)]
    rfl

theorem exists_of_mem_toDigitsCore {base fuel n : Nat} {digits : List Char}
    (h : c ∈ Nat.toDigitsCore base fuel n digits) : c ∈ digits ∨ ∃ d, c = Nat.digitChar d := by
  induction fuel generalizing n digits with
  | zero => exact .inl h
  | succ fuel ih =>
    have hdigits {digit : Char} (hmem : c ∈ digit :: digits)
        (hdigit : ∃ d, digit = Nat.digitChar d) :
        c ∈ digits ∨ ∃ d, c = Nat.digitChar d := by
      rcases List.mem_cons.mp hmem with rfl | hmem
      · exact .inr hdigit
      · exact .inl hmem
    rw [Nat.toDigitsCore] at h
    split at h
    · exact hdigits h ⟨_, rfl⟩
    · rcases ih h with h | h
      · exact hdigits h ⟨_, rfl⟩
      · exact .inr h

theorem plain_toDigits (base n : Nat) : Plain (String.ofList (Nat.toDigits base n)) := by
  intro c hc
  rw [String.toList_ofList] at hc
  rcases exists_of_mem_toDigitsCore hc with hnil | ⟨d, rfl⟩
  · cases hnil
  · exact endsAuthority_digitChar d

/-- The characters of an escaped text are those of escapes, and those of the text that are not
reserved. -/
theorem mem_escape {reserved : List Char} (h : c ∈ escape reserved cs) :
    endsAuthority false c = false ∨ c ∈ cs ∧ c ∉ reserved := by
  obtain ⟨d, hd, hc⟩ := List.mem_flatMap.mp h
  split at hc
  · obtain ⟨b, -, hb⟩ := List.mem_flatMap.mp hc
    simp only [escapeByte, List.mem_cons, List.not_mem_nil, or_false] at hb
    rcases hb with rfl | rfl | rfl
    · exact .inl rfl
    · exact .inl (endsAuthority_capitalDigit _)
    · exact .inl (endsAuthority_capitalDigit _)
  next hplain =>
    obtain rfl := List.mem_singleton.mp hc
    simp only [Bool.or_eq_true, List.contains_iff_mem, not_or] at hplain
    exact .inr ⟨hd, hplain.2⟩

theorem plain_escape {reserved : List Char} (cs : List Char)
    (h : '/' ∈ reserved ∧ '?' ∈ reserved ∧ '#' ∈ reserved) :
    Plain (String.ofList (escape reserved cs)) := by
  intro c hc
  rw [String.toList_ofList] at hc
  rcases mem_escape hc with hplain | ⟨-, hreserved⟩
  · exact hplain
  · refine endsAuthority_eq_false_iff.mpr ⟨?_, endsPath_eq_false_iff.mpr ⟨?_, ?_⟩⟩ <;>
      rintro rfl
    · exact hreserved h.1
    · exact hreserved h.2.1
    · exact hreserved h.2.2

/-! ### Hosts and authorities -/

theorem endsAuthority_of_not_forbidden (h : c ∉ Host.forbidden) :
    endsAuthority false c = false := by
  refine endsAuthority_eq_false_iff.mpr ⟨?_, endsPath_eq_false_iff.mpr ⟨?_, ?_⟩⟩ <;>
    exact fun heq => h (by rw [heq]; decide)

theorem Host.plain_render_ipv4 (address : Nat) : Plain (Host.ipv4 address).render := by
  refine Plain.intercalate (by decide) fun text hmem => ?_
  simp only [List.mem_cons, List.not_mem_nil, or_false] at hmem
  rcases hmem with rfl | rfl | rfl | rfl <;>
    exact Nat.toString_eq_ofList_toDigits ▸ plain_toDigits 10 _

theorem Host.plain_render_ipv6 (groups : List Nat) : Plain (Host.ipv6 groups).render := by
  have hgroups (groups : List Nat) : Plain (Ipv6.renderGroups groups) := by
    refine Plain.intercalate (by decide) fun text hmem => ?_
    obtain ⟨group, -, rfl⟩ := List.mem_map.mp hmem
    exact plain_toDigits 16 group
  have haddress : Plain (Ipv6.render groups) := by
    rw [Ipv6.render]
    dsimp only
    split
    · exact hgroups _
    · exact ((hgroups _).append (by decide)).append (hgroups _)
  exact (Plain.append (by decide) haddress).append (by decide)

theorem Host.plain_render_of_bracketed? {host : Host} (h : Host.bracketed? cs = some host) :
    Plain host.render := by
  rw [bracketed?] at h
  split at h
  · obtain ⟨groups, -, rfl⟩ := Option.map_eq_some_iff.mp h
    exact plain_render_ipv6 groups
  · cases h

theorem Host.plain_render_of_parse? {special : Bool} {host : Host}
    (h : Host.parse? ascii special cs = some host) : Plain host.render := by
  rw [parse?] at h
  split at h
  · unfold parseSpecial? at h
    split at h
    · exact plain_render_of_bracketed? h
    · obtain ⟨name, -, h⟩ := Option.bind_eq_some_iff.mp h
      split at h
      · cases h
      next hname =>
        split at h
        · obtain ⟨address, -, rfl⟩ := Option.map_eq_some_iff.mp h
          exact plain_render_ipv4 address
        · obtain rfl := Option.some.inj h
          intro c hc
          rw [render, String.toList_ofList] at hc
          simp only [Bool.or_eq_true, Bool.not_eq_true', not_or, Bool.not_eq_false,
            List.all_eq_true] at hname
          have hallowed := hname.2 c hc
          refine endsAuthority_of_not_forbidden fun hforbidden => ?_
          simp [allowedInName, hforbidden] at hallowed
  · unfold parseOpaque? at h
    split at h
    · exact plain_render_of_bracketed? h
    · split at h
      · cases h
      next hnone =>
        obtain rfl := Option.some.inj h
        intro c hc
        rw [render, String.toList_ofList] at hc
        rcases mem_escape hc with hplain | ⟨hmem, -⟩
        · exact hplain
        · refine endsAuthority_of_not_forbidden fun hforbidden => hnone ?_
          exact List.any_eq_true.mpr ⟨c, hmem, List.contains_iff_mem.mpr hforbidden⟩

theorem plain_readUser (user : List Char) : Plain (readUser user).1 ∧
    ∀ password, (readUser user).2 = some password → Plain password := by
  have hescape (cs : List Char) : Plain (String.ofList (escape userReserved cs)) :=
    plain_escape cs (by decide)
  unfold readUser
  dsimp only
  split
  · exact ⟨hescape _, fun password h => by obtain rfl := Option.some.inj h; exact hescape _⟩
  · exact ⟨hescape _, fun password h => by cases h⟩

/-- An authority that is read is a user, a host and a port, each as it is read. -/
theorem exists_of_readAuthority? {a : Authority} {rest : List Char}
    (h : readAuthority? ascii scheme cs = some (a, rest)) : ∃ user written,
      a.username = (readUser user).1 ∧ a.password = (readUser user).2 ∧
        Host.parse? ascii (isSpecial scheme) written = some a.host := by
  unfold readAuthority? at h
  extract_lets special at h
  split at h
  split at h
  extract_lets missing afterMissing at h
  split at h
  · cases h
  simp only [afterMissing] at h
  split at h
  · cases h
  obtain ⟨host, hhost, h⟩ := Option.bind_eq_some_iff.mp h
  split at h
  · cases h
  split at h
  all_goals
    obtain ⟨port, -, h⟩ := Option.bind_eq_some_iff.mp h
    obtain rfl := (Prod.mk.inj (Option.some.inj h)).1
    exact ⟨_, _, rfl, rfl, hhost⟩

theorem Authority.plain_render {a : Authority} (husername : Plain a.username)
    (hpassword : ∀ password, a.password = some password → Plain password)
    (hhost : Plain a.host.render) : Plain a.render := by
  have hmark : Plain "" ∧ Plain ":" ∧ Plain "@" := by decide
  refine Plain.append (Plain.append ?_ hhost) ?_
  · split
    next password heq =>
      exact ((husername.append hmark.2.1).append (hpassword password heq)).append hmark.2.2
    next =>
      split
      · exact hmark.1
      · exact husername.append hmark.2.2
  · split
    next port _ =>
      exact hmark.2.1.append (Nat.toString_eq_ofList_toDigits ▸ plain_toDigits 10 port)
    next => exact hmark.1

theorem plain_render_of_readAuthority? {a : Authority} {rest : List Char}
    (h : readAuthority? ascii scheme cs = some (a, rest)) : Plain a.render := by
  obtain ⟨user, written, husername, hpassword, hhost⟩ := exists_of_readAuthority? h
  obtain ⟨hplain, hplain'⟩ := plain_readUser user
  refine Authority.plain_render (husername ▸ hplain) (fun password heq => ?_)
    (Host.plain_render_of_parse? hhost)
  exact hplain' password (by rw [← hpassword, heq])

/-! ### Paths -/

theorem mem_renderSegments {segments : List (List Char)} (h : c ∈ renderSegments segments) :
    c = '/' ∨ ∃ segment ∈ segments, c ∈ segment := by
  obtain ⟨segment, hmem, hc⟩ := List.mem_flatMap.mp h
  rcases List.mem_cons.mp hc with rfl | hc
  · exact .inl rfl
  · exact .inr ⟨segment, hmem, hc⟩

/-- The segments that are left when dots are resolved: empty ones, those before, and those that are
read and are no dot. -/
theorem mem_resolveSegments {file : Bool} {done segments : List (List Char)} {segment : List Char}
    (h : segment ∈ resolveSegments file done segments) :
    segment = [] ∨ segment ∈ done ∨ ∃ written ∈ segments, isSingleDot written = false ∧
      ∃ before, segment = keep file before written := by
  induction segments generalizing done with
  | nil => exact .inr (.inl (List.mem_reverse.mp h))
  | cons first rest ih =>
    have htop : ∀ segment ∈ dropTop done, segment ∈ done := by
      unfold dropTop
      split
      · simp
      · split
        · simp
        · exact fun segment hmem => List.mem_cons_of_mem _ hmem
    have hrest {done' : List (List Char)} (hdone : ∀ segment ∈ done', segment ∈ done)
        (h : segment ∈ resolveSegments file done' rest) :
        segment = [] ∨ segment ∈ done ∨ ∃ written ∈ first :: rest, isSingleDot written = false ∧
          ∃ before, segment = keep file before written := by
      rcases ih h with hnil | hmem | ⟨written, hmem, hwritten⟩
      · exact .inl hnil
      · exact .inr (.inl (hdone _ hmem))
      · exact .inr (.inr ⟨written, List.mem_cons_of_mem _ hmem, hwritten⟩)
    have hlast {done' : List (List Char)} (hdone : ∀ segment ∈ done', segment ∈ done)
        (h : segment ∈ done'.reverse ++ [[]]) : segment = [] ∨ segment ∈ done := by
      rcases List.mem_append.mp h with hmem | hmem
      · exact .inr (hdone _ (List.mem_reverse.mp hmem))
      · exact .inl (List.mem_singleton.mp hmem)
    rw [resolveSegments] at h
    split at h
    · split at h
      · exact (hlast htop h).imp_right .inl
      · exact hrest htop h
    · split at h
      · split at h
        · exact (hlast (fun _ hmem => hmem) h).imp_right .inl
        · exact hrest (fun _ hmem => hmem) h
      next hdot =>
        rcases ih h with hnil | hmem | ⟨written, hmem, hwritten⟩
        · exact .inl hnil
        · rcases List.mem_cons.mp hmem with rfl | hmem
          · exact .inr (.inr ⟨first, List.mem_cons_self, Bool.eq_false_iff.mpr hdot, done, rfl⟩)
          · exact .inr (.inl hmem)
        · exact .inr (.inr ⟨written, List.mem_cons_of_mem _ hmem, hwritten⟩)

theorem mem_keep {file : Bool} {before : List (List Char)} {written : List Char}
    (h : c ∈ keep file before written) : c ∈ written ∨ c = ':' := by
  rw [keep] at h
  split at h
  · rcases List.mem_append.mp h with hmem | hmem
    · exact .inl (List.mem_of_mem_take hmem)
    · exact .inr (List.mem_singleton.mp hmem)
  · exact .inl h

theorem not_isSlash_of_mem_splitSegments {special : Bool} {segment : List Char}
    (h : segment ∈ splitSegments special cs) (hc : c ∈ segment) : isSlash special c = false := by
  induction cs generalizing segment with
  | nil =>
    rw [splitSegments, List.mem_singleton] at h
    rw [h] at hc
    cases hc
  | cons first rest ih =>
    rw [splitSegments] at h
    split at h
    · rcases List.mem_cons.mp h with rfl | hmem
      · cases hc
      · exact ih hmem hc
    next hfirst =>
      have hfirst := Bool.eq_false_iff.mpr hfirst
      split at h
      · rw [List.mem_singleton.mp h, List.mem_singleton] at hc
        rwa [hc]
      next second others heq =>
        rw [heq] at ih
        rcases List.mem_cons.mp h with rfl | hmem
        · rcases List.mem_cons.mp hc with rfl | hc
          · exact hfirst
          · exact ih List.mem_cons_self hc
        · exact ih (List.mem_cons_of_mem _ hmem) hc

/-- A segment of a path is empty, or it is written without slashes and is no dot. -/
theorem mem_segmentsOf {special file : Bool} {segment : List Char}
    (h : segment ∈ segmentsOf special file cs) : segment = [] ∨ ∃ written before,
      segment = keep file before (escape pathReserved written) ∧
        isSingleDot (escape pathReserved written) = false ∧
          ∀ c ∈ written, isSlash special c = false := by
  rcases mem_resolveSegments h with hnil | hmem | ⟨escaped, hmem, hdot, before, hsegment⟩
  · exact .inl hnil
  · cases hmem
  · obtain ⟨written, hwritten, rfl⟩ := List.mem_map.mp hmem
    exact .inr ⟨written, before, hsegment, hdot,
      fun c hc => not_isSlash_of_mem_splitSegments hwritten hc⟩

theorem endsPath_of_mem_renderSegments {special file : Bool}
    (h : c ∈ renderSegments (segmentsOf special file cs)) : endsPath c = false := by
  rcases mem_renderSegments h with rfl | ⟨segment, hmem, hc⟩
  · rfl
  · rcases mem_segmentsOf hmem with rfl | ⟨written, before, rfl, -, -⟩
    · cases hc
    · rcases mem_keep hc with hc | rfl
      · rcases mem_escape hc with hplain | ⟨-, hreserved⟩
        · exact (endsAuthority_eq_false_iff.mp hplain).2
        · refine endsPath_eq_false_iff.mpr ⟨?_, ?_⟩ <;>
            exact fun heq => hreserved (by rw [heq]; decide)
      · rfl

/-- A path of segments does not open with a segment that is a dot. -/
theorem renderSegments_undotted (rest : List Char) :
    renderSegments (segmentsOf false false cs) ≠ '/' :: '.' :: '/' :: rest := by
  intro h
  cases hsegments : segmentsOf false false cs with
  | nil => simp [hsegments, renderSegments] at h
  | cons segment others =>
    have hmem : segment ∈ segmentsOf false false cs := by simp [hsegments]
    rw [hsegments, renderSegments, List.flatMap_cons, List.cons_append, List.cons_inj_right] at h
    rcases mem_segmentsOf hmem with rfl | ⟨written, before, hsegment, hdot, hslash⟩
    · -- After an empty segment comes the next slash, and no dot.
      cases others <;> simp at h
    · rw [keep, Bool.false_and, Bool.false_and, if_neg (by simp)] at hsegment
      rw [← hsegment] at hdot
      match segment, hsegment with
      | [], _ => cases others <;> simp at h
      | [c], _ =>
        obtain rfl : c = '.' := (List.cons.inj h).1
        simp [isSingleDot] at hdot
      | c :: d :: tail, hsegment =>
        obtain rfl : d = '/' := by
          rw [List.cons_append, List.cons_append] at h
          exact (List.cons.inj (List.cons.inj h).2).1
        have hescaped : '/' ∈ escape pathReserved written := by simp [← hsegment]
        rcases mem_escape hescaped with hplain | ⟨hwritten, -⟩
        · cases hplain
        · exact absurd (hslash _ hwritten) (by decide)

/-! ### URLs that are read -/

theorem separable_assemble {authority : Option Authority} {path : List Char} (rest : List Char)
    (hscheme : ∀ c ∈ scheme.toList, c ≠ ':' ∧ endsPath c = false)
    (hauthority : ∀ a, authority = some a → Plain a.render)
    (hpath : ∀ c ∈ path, endsPath c = false)
    (hrooted : authority.isSome = true → path = [] ∨ ∃ rest, path = '/' :: rest)
    (hundotted : authority = none → ∀ rest, path ≠ '/' :: '.' :: '/' :: rest) :
    (assemble scheme authority path rest).Separable where
  scheme := hscheme
  authority := hauthority
  path := by
    change ∀ c ∈ (String.ofList path).toList, endsPath c = false
    rwa [String.toList_ofList]
  rooted := by
    change authority.isSome = true → (String.ofList path).toList = [] ∨
      ∃ rest, (String.ofList path).toList = '/' :: rest
    rwa [String.toList_ofList]
  undotted := by
    change authority = none → ∀ rest, (String.ofList path).toList ≠ '/' :: '.' :: '/' :: rest
    rwa [String.toList_ofList]

theorem not_delimiter_of_splitScheme? {rest : List Char}
    (h : splitScheme? cs = some (scheme, rest)) :
    ∀ c ∈ scheme.toList, c ≠ ':' ∧ endsPath c = false := by
  unfold splitScheme? at h
  split at h
  next first letters after hspan =>
    split at h
    · obtain ⟨rfl, -⟩ := Prod.mk.inj (Option.some.inj h)
      have hall : ∀ letter ∈ first :: letters, isSchemeChar letter = true := by
        rw [List.span_eq_takeWhile_dropWhile] at hspan
        rw [← (Prod.mk.inj hspan).1]
        exact fun letter hmem => List.mem_takeWhile_imp hmem
      -- Small letters are none of these characters, and nothing else becomes one of them.
      have hkept {letter other : Char} (hmem : letter ∈ first :: letters)
          (hsmall : other.val.toNat < 97) (hother : isSchemeChar other = false) :
          letter.toLower ≠ other := by
        intro heq
        rw [← eq_of_toLower_eq hsmall heq, hall letter hmem] at hother
        cases hother
      intro c hc
      rw [String.toList_ofList] at hc
      obtain ⟨letter, hmem, rfl⟩ := List.mem_map.mp hc
      exact ⟨hkept hmem (by decide) (by decide), endsPath_eq_false_iff.mpr
        ⟨hkept hmem (by decide) (by decide), hkept hmem (by decide) (by decide)⟩⟩
    · cases h
  next => cases h

variable (hscheme : ∀ c ∈ scheme.toList, c ≠ ':' ∧ endsPath c = false) {url : Url}

include hscheme in
theorem separable_of_readHierarchy? (h : readHierarchy? ascii scheme cs = some url) :
    url.Separable := by
  rw [readHierarchy?, Option.bind_eq_bind, Option.bind_eq_some_iff] at h
  obtain ⟨⟨authority, after⟩, hauthority, h⟩ := h
  obtain rfl := Option.some.inj h
  refine separable_assemble _ hscheme (fun a heq => ?_) ?_ ?_ (fun hnone => by cases hnone)
  · obtain rfl := Option.some.inj heq
    exact plain_render_of_readAuthority? hauthority
  · unfold pathAfterAuthority
    split
    · simp
    · exact fun c hc => endsPath_of_mem_renderSegments hc
  · intro _
    unfold pathAfterAuthority renderSegments
    split
    · exact .inl rfl
    · cases segmentsOf (isSpecial scheme) false (dropSlash (isSpecial scheme) _) with
      | nil => exact .inl rfl
      | cons segment others => exact .inr ⟨_, rfl⟩

theorem separable_fileUrl {host : Host} (hhost : Plain host.render) (written rest : List Char) :
    (fileUrl host written rest).Separable := by
  have hempty : Plain Host.empty.render := by decide
  refine separable_assemble rest (by simp [endsPath]) (fun a heq => ?_) ?_ (fun _ => .inr ⟨_, rfl⟩)
    (fun hnone => by cases hnone)
  · obtain rfl := Option.some.inj heq
    refine Authority.plain_render hempty (fun password hnone => by cases hnone) ?_
    dsimp only [Authority.ofHost]
    split
    · split
      · exact hempty
      · exact hhost
    · exact hhost
  · intro c hc
    rcases List.mem_cons.mp hc with rfl | hc
    · rfl
    · exact endsPath_of_mem_renderSegments (List.dropWhile_subset _ hc)

theorem separable_of_readFile? (h : readFile? ascii cs = some url) : url.Separable := by
  have hempty : Plain Host.empty.render := by decide
  have hwithout : ∀ {cs}, readFile?.withoutHost cs = some url → url.Separable := by
    intro cs h
    obtain rfl := Option.some.inj h
    exact separable_fileUrl hempty _ _
  unfold readFile? at h
  split at h
  · split at h
    · dsimp only at h
      split at h
      · obtain rfl := Option.some.inj h
        exact separable_fileUrl hempty _ _
      · split at h
        · cases h
        next host hhost =>
          split at h
          · obtain rfl := Option.some.inj h
            exact separable_fileUrl hempty _ _
          · obtain rfl := Option.some.inj h
            exact separable_fileUrl (Host.plain_render_of_parse? hhost) _ _
    · exact hwithout h
  · exact hwithout h

theorem escape_ne_slash {written : List Char} (h : ∀ rest, written ≠ '/' :: rest)
    (rest : List Char) : escape [] written ≠ '/' :: rest := by
  cases written with
  | nil => simp [escape]
  | cons first others =>
    have hfirst : first ≠ '/' := fun heq => h others (by rw [heq])
    rw [escape, List.flatMap_cons]
    split
    · cases hbytes : String.utf8EncodeChar first with
      | nil => exact absurd hbytes String.utf8EncodeChar_ne_nil
      | cons b bytes => simp [escapeByte]
    · simp [hfirst]

include hscheme in
theorem separable_of_readOther? (h : readOther? ascii scheme cs = some url) : url.Separable := by
  unfold readOther? at h
  split at h
  · exact separable_of_readHierarchy? hscheme h
  · obtain rfl := Option.some.inj h
    exact separable_assemble _ hscheme (fun a heq => by cases heq)
      (fun c hc => endsPath_of_mem_renderSegments hc) (fun hsome => by cases hsome)
      fun _ => renderSegments_undotted
  next hsingle =>
    rw [List.span_eq_takeWhile_dropWhile] at h
    obtain rfl := Option.some.inj h
    refine separable_assemble _ hscheme (fun a heq => by cases heq) (fun c hc => ?_)
      (fun hsome => by cases hsome) fun _ rest => escape_ne_slash (fun rest heq => ?_) _
    · rcases mem_escape hc with hplain | ⟨hmem, -⟩
      · exact (endsAuthority_eq_false_iff.mp hplain).2
      · simpa using List.mem_takeWhile_imp hmem
    · have hprefix := List.takeWhile_prefix (!endsPath ·) (l := cs)
      rw [heq] at hprefix
      obtain ⟨after, hafter⟩ := hprefix
      exact hsingle (rest ++ after) hafter.symm

theorem separable_of_parse? {text : String} (h : parse? ascii text = some url) : url.Separable := by
  unfold parse? at h
  split at h
  next => cases h
  next => exact separable_of_readFile? h
  next scheme rest _ hsplit =>
    have hscheme := not_delimiter_of_splitScheme? hsplit
    split at h
    · exact separable_of_readHierarchy? hscheme h
    · exact separable_of_readOther? hscheme h

/-- URLs that are read and have one spelling have one path. -/
theorem path_eq_of_render_eq {text other : String} {url' : Url} (h : parse? ascii text = some url)
    (hother : parse? ascii other = some url') (hrender : url.render = url'.render) :
    url.path = url'.path := by
  rw [← String.toList_inj, ← spelledPath_render (separable_of_parse? h),
    ← spelledPath_render (separable_of_parse? hother), hrender]

end ImageImports.Url
