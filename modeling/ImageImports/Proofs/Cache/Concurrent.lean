import ImageImports.Proofs.Cache.Contents
import ImageImports.Proofs.Cache.Turns

/-!
# Concurrent stores

Any number of stores may be on their way in one cache, several of them for one path, and their
steps may come in any order and fail. A file of the cache is never seen with a part of its bytes:
bytes are written to a file with a name of its own, and this name starts with a dot, as that of no
file of the cache does. A file that is found with the right length is complete, so it holds the
bytes if no two byte strings have one digest.

## Main definitions

* `Cache.Request`: bytes that are to be stored.
* `Cache.Progress.ofRequests`: the stores of some requests before their first step.

## Main results

* `Cache.apart_of_draws`: stores with different draws do not write to one file.
* `Cache.Fills.read`: a store that succeeds has its bytes at its path.
* `Cache.concurrent_stores_are_safe`: what is kept while stores take turns, and what they leave.
-/

namespace ImageImports

/-! ### Draws -/

theorem Uuid.digits_injective {u v : Uuid} (h : u.digits = v.digits) : u = v := by
  have hchars := congrArg String.toList h
  simp only [Uuid.digits, Hex.encode, String.toList_ofList] at hchars
  obtain ⟨a⟩ := u
  obtain ⟨b⟩ := v
  exact congrArg Uuid.mk (Vector.toList_inj.mp (Hex.encodeChars_injective hchars))

namespace Cache

open FileSystem

theorem tempName_injective {u v : Uuid} (h : tempName u = tempName v) : u = v := by
  have hchars := congrArg String.toList h
  rw [toList_tempName, toList_tempName] at hchars
  have hdigits := (List.append_inj' (List.cons.inj hchars).2 rfl).1
  refine Uuid.digits_injective ?_
  rw [Uuid.digits, Uuid.digits, Hex.encode, Hex.encode, hdigits]

variable {c : Cache} {calls : List Storing} {before files : FileSystem}

/-- Stores with different draws do not write to one file, and no bytes belong where a store writes
first. -/
theorem apart_of_draws {draws : List Uuid}
    (hpath : ∀ call ∈ calls, c.IsPathOf call.target call.bytes)
    (htemps : calls.map Storing.temp = draws.map c.tempPath) (hdraws : draws.Nodup) :
    Apart files calls := by
  have hdraw (i : Nat) (call : Storing) (hi : calls[i]? = some call) :
      ∃ draw, draws[i]? = some draw ∧ call.temp = c.tempPath draw := by
    have htemp := congrArg (fun temps => temps[i]?) htemps
    rw [List.getElem?_map, List.getElem?_map, hi, Option.map_some] at htemp
    obtain ⟨draw, hfound, hsame⟩ := Option.map_eq_some_iff.mp htemp.symm
    exact ⟨draw, hfound, hsame.symm⟩
  constructor
  · intro i j call other place hi hj hplace hplace'
    obtain ⟨draw, hfound, hcall⟩ := hdraw i call hi
    obtain ⟨draw', hfound', hother⟩ := hdraw j other hj
    rw [hcall] at hplace
    rw [hother] at hplace'
    have hlast := getLast?_of_locate_join (isFileName_tempName draw) hplace
    have hlast' := getLast?_of_locate_join (isFileName_tempName draw') hplace'
    have hname := Option.some.inj (hlast.symm.trans hlast')
    obtain rfl := tempName_injective (Utf8.encode_injective hname)
    exact (List.getElem?_inj (List.getElem?_eq_some_iff.mp hfound).1 hdraws).mp
      (hfound.trans hfound'.symm)
  · intro call hcall other hother place hplace hplace'
    obtain ⟨j, hj⟩ := List.mem_iff_getElem?.mp hother
    obtain ⟨draw, -, htemp⟩ := hdraw j other hj
    exact (hpath call hcall).place_ne_temp hplace (htemp ▸ hplace') rfl

theorem Fills.exists_read {skipExisting : Bool} {call : Storing}
    (hdirectories : before.SameDirectories files) (h : Fills skipExisting calls before files call) :
    ∃ bytes, files.read call.target = .ok bytes := by
  cases h with
  | kept place hplace hskip hfile hsame =>
    obtain ⟨place', bytes, hplace', hentry, -⟩ := hasFile_iff.mp hfile
    obtain rfl := Except.ok.inj (hplace.symm.trans hplace')
    exact ⟨bytes, read_eq_ok_iff.mpr
      ⟨place, (locate_eq_ok_iff hdirectories).mp hplace, hsame.trans hentry⟩⟩
  | stored place hplace other hother hotherPlace hstored =>
    exact ⟨other.bytes, read_eq_ok_iff.mpr
      ⟨place, (locate_eq_ok_iff hdirectories).mp hplace, hstored⟩⟩

/-- A store that succeeds has its bytes at its path, in a cache that was right about them. -/
theorem Fills.read {call : Storing} (hdirectories : before.SameDirectories files)
    (hpath : ∀ call ∈ calls, c.IsPathOf call.target call.bytes) (hmem : call ∈ calls)
    (hdigest : ∀ other ∈ calls, Sha256.digest other.bytes = Sha256.digest call.bytes →
      other.bytes = call.bytes)
    (hright : c.IsRightAbout before call.target call.bytes)
    (h : Fills c.skipExisting calls before files call) :
    files.read call.target = .ok call.bytes := by
  cases h with
  | kept place hplace hskip hfile hsame =>
    obtain ⟨place', hplace', hentry⟩ := read_eq_ok_iff.mp (hright hskip hfile)
    obtain rfl := Except.ok.inj (hplace.symm.trans hplace')
    exact read_eq_ok_iff.mpr
      ⟨place, (locate_eq_ok_iff hdirectories).mp hplace, hsame.trans hentry⟩
  | stored place hplace other hother hotherPlace hstored =>
    have hsame := (hpath other hother).digest_eq (hpath call hmem) hotherPlace hplace
    rw [hdigest other hother hsame] at hstored
    exact read_eq_ok_iff.mpr ⟨place, (locate_eq_ok_iff hdirectories).mp hplace, hstored⟩

/-- A store that has returned has left nothing of its own where it wrote first. -/
theorem Sound.entryAt?_temp {skipExisting : Bool} {p : Progress}
    (h : Sound skipExisting calls before p) {i : Nat} {call : Storing}
    (hcall : calls[i]? = some call) (hresult : (p.resultAt? i).isSome = true) {place : Location}
    (hplace : p.files.locate call.temp = .ok place) :
    p.files.entryAt? place = none ∨ p.files.entryAt? place = before.entryAt? place := by
  obtain ⟨stage, hstore, hobeys⟩ := h.store i call hcall
  rw [Progress.resultAt?, hstore, Option.bind_some] at hresult
  obtain ⟨result, hresult⟩ := Option.isSome_iff_exists.mp hresult
  have hallows := hobeys.temp place ((locate_eq_ok_iff h.directories).mpr hplace)
  rwa [show stage = .done result from Stage.eq_done_of_result? hresult] at hallows

/-- A store that has succeeded has a file at the place of its bytes. -/
theorem Sound.fills {skipExisting : Bool} {p : Progress} (h : Sound skipExisting calls before p)
    {i : Nat} {call : Storing} (hcall : calls[i]? = some call) {written : Bool}
    (hresult : p.resultAt? i = some (.ok written)) :
    Fills skipExisting calls before p.files call := by
  obtain ⟨stage, hstore, hobeys⟩ := h.store i call hcall
  rw [Progress.resultAt?, hstore, Option.bind_some] at hresult
  exact hobeys.target written (Stage.eq_done_of_result? hresult)

/-! ### Requests -/

/-- Bytes that are to be stored: the ending of their file, which has no slash as that of no source
has, and the identifier that is drawn for the file that they are written to first. -/
structure Request where
  bytes : ByteArray
  extension : String
  draw : Uuid
  noSlash : '/' ∉ extension.toList

variable (c) in
/-- The path of the bytes of a request. -/
def Request.path (r : Request) : Path := c.pathFor r.bytes r.extension

variable (c) in
/-- The store of a request before its first step. -/
def Request.storing (r : Request) : Storing := c.storing (r.path c) r.bytes r.draw

variable (c) in
/-- The stores of some requests before their first step. -/
def Progress.ofRequests (requests : List Request) (files : FileSystem) : Progress :=
  ⟨requests.map (Request.storing c), files⟩

variable {requests : List Request}

theorem isPathOf_of_requests :
    ∀ call ∈ requests.map (Request.storing c), c.IsPathOf call.target call.bytes := by
  intro call hcall
  obtain ⟨r, -, rfl⟩ := List.mem_map.mp hcall
  exact ⟨r.extension, r.noSlash, rfl⟩

theorem sound_ofRequests (hdraws : (requests.map Request.draw).Nodup) (turns : List Turn) :
    Sound c.skipExisting (requests.map (Request.storing c)) files
      ((Progress.ofRequests c requests files).turns c.skipExisting turns) := by
  refine (sound_start fun call hcall => ?_).turns (apart_of_draws isPathOf_of_requests ?_ hdraws)
    turns
  · obtain ⟨r, -, rfl⟩ := List.mem_map.mp hcall
    rfl
  · rw [List.map_map, List.map_map]
    rfl

theorem head?_tempName (draw : Uuid) :
    (Utf8.encode (tempName draw)).head? = some Path.dot := by
  rw [Utf8.encode, toList_tempName]
  rfl

/-- Stores in one cache are safe whatever order their steps come in and whichever of them fail. At
every time a file whose name does not start with a dot holds what it held at the start, or all the
bytes of a request for its path. Whenever a store has succeeded, whether it wrote a file or kept
one, the file at its path holds its bytes. Of a store that has returned nothing is left where it
wrote first: if anything is there, it was there at the start. After five turns a store has
returned. It is taken for granted that no two byte strings that are stored have one digest, that
the draws differ, and that a file that is there at the start holds the bytes of a request if it
would be kept for them. -/
theorem concurrent_stores_are_safe (hdraws : (requests.map Request.draw).Nodup)
    (hdigest : ∀ r ∈ requests, ∀ r' ∈ requests,
      Sha256.digest r.bytes = Sha256.digest r'.bytes → r.bytes = r'.bytes)
    (hright : ∀ r ∈ requests, c.IsRightAbout files (r.path c) r.bytes)
    {turns : List Turn} {p : Progress}
    (hp : p = (Progress.ofRequests c requests files).turns c.skipExisting turns) :
    (∀ place name, place.getLast? = some name → name.head? ≠ some Path.dot →
      p.files.entryAt? place = files.entryAt? place ∨ ∃ r ∈ requests,
        files.locate (r.path c) = .ok place ∧ p.files.entryAt? place = some (.file r.bytes)) ∧
    ∀ (i : Nat) r, requests[i]? = some r →
      (∀ written, p.resultAt? i = some (.ok written) → p.files.read (r.path c) = .ok r.bytes) ∧
      ((p.resultAt? i).isSome = true → ∀ place, p.files.locate (c.tempPath r.draw) = .ok place →
        p.files.entryAt? place = none ∨ p.files.entryAt? place = files.entryAt? place) ∧
      (5 ≤ (turns.map Turn.position).count i → (p.resultAt? i).isSome = true) := by
  have hsound : Sound c.skipExisting (requests.map (Request.storing c)) files p :=
    hp ▸ sound_ofRequests hdraws turns
  refine ⟨fun place name hlast hdot => ?_, fun i r hr => ?_⟩
  · -- The name of a file that is still being written would start with a dot.
    have hfree : ∀ call ∈ requests.map (Request.storing c), files.locate call.temp ≠ .ok place := by
      intro call hcall htemp
      obtain ⟨r, -, rfl⟩ := List.mem_map.mp hcall
      change files.locate (c.directory.join (.ofText (tempName r.draw))) = .ok place at htemp
      have hname := getLast?_of_locate_join (isFileName_tempName r.draw) htemp
      obtain rfl := Option.some.inj (hlast.symm.trans hname)
      exact hdot (head?_tempName r.draw)
    cases hsound.entry place hfree with
    | same h => exact Or.inl h
    | stored call hcall hplace h =>
      obtain ⟨r, hr, rfl⟩ := List.mem_map.mp hcall
      exact Or.inr ⟨r, hr, hplace, h⟩
  · have hcall : (requests.map (Request.storing c))[i]? = some (r.storing c) := by
      rw [List.getElem?_map, hr, Option.map_some]
    have hmem := List.mem_of_getElem? hr
    refine ⟨fun written hresult => ?_, fun hresult place hplace => ?_, fun hcount => ?_⟩
    · have hagree : ∀ other ∈ requests.map (Request.storing c),
          Sha256.digest other.bytes = Sha256.digest (r.storing c).bytes →
            other.bytes = (r.storing c).bytes := by
        intro other hother
        obtain ⟨r', hr', rfl⟩ := List.mem_map.mp hother
        exact hdigest r' hr' r hmem
      have hread : p.files.read (r.storing c).target = .ok (r.storing c).bytes :=
        (hsound.fills hcall hresult).read hsound.directories isPathOf_of_requests
          (List.mem_of_getElem? hcall) hagree (hright r hmem)
      exact hread
    · exact hsound.entryAt?_temp hcall hresult hplace
    · rw [hp]
      refine Progress.isSome_resultAt?_turns _ turns ?_ hcount
      rw [Progress.ofRequests, List.length_map]
      exact (List.getElem?_eq_some_iff.mp hr).1

/-- Three requests for one path. -/
def Request.thrice : List Request :=
  [0, 1, 2].map fun n => ⟨⟨#[1]⟩, ".png", ⟨Vector.replicate 16 n⟩, by decide⟩

/-- Turns in which the first store finds nothing and writes, the second one finds nothing and fails
while it writes, and the third one comes when the first has returned. -/
def Turn.crossing : List Turn :=
  [⟨0, none⟩, ⟨1, none⟩, ⟨0, none⟩, ⟨1, none⟩, ⟨0, none⟩, ⟨1, some ⟨.notFound, 0⟩⟩, ⟨0, none⟩,
    ⟨2, none⟩, ⟨1, none⟩]

/-- Three stores for one path: the first writes a file, the second fails, and the third keeps what
the first has written. -/
theorem concurrent_stores_are_safe_crossing :
    let c : Cache := ⟨.ofText "/c", .hex, true⟩
    let files : FileSystem := ⟨[([Utf8.encode "c"], .directory)]⟩
    let p := (Progress.ofRequests c Request.thrice files).turns true Turn.crossing
    [0, 1, 2].map (fun i => (p.resultAt? i).map Except.toOption) =
        [some (some true), some none, some (some false)] ∧
      p.files.read (c.pathFor ⟨#[1]⟩ ".png") = .ok ⟨#[1]⟩ := by
  intro c files p
  have hpath : c.pathFor ⟨#[1]⟩ ".png" =
      .ofText "/c/4bf5122f344554c53bde2ebb8cd2b7e3d1600ad631c385a5d7cce23c7785459a.png" := by
    decide +kernel
  have hbytes : ∀ r ∈ Request.thrice, r.path c = c.pathFor ⟨#[1]⟩ ".png" ∧ r.bytes = ⟨#[1]⟩ := by
    simp [Request.thrice, Request.path]
  have hmissing : files.hasFile (c.pathFor ⟨#[1]⟩ ".png") 1 = false := by
    rw [hpath]
    decide +kernel
  have hstart : Progress.ofRequests c Request.thrice files =
      ⟨[0, 1, 2].map fun n => c.storing
        (.ofText "/c/4bf5122f344554c53bde2ebb8cd2b7e3d1600ad631c385a5d7cce23c7785459a.png") ⟨#[1]⟩
        ⟨Vector.replicate 16 n⟩, files⟩ := by
    simp [Progress.ofRequests, Request.thrice, Request.storing, Request.path, hpath]
  have hresults : [0, 1, 2].map (fun i => (p.resultAt? i).map Except.toOption) =
      [some (some true), some none, some (some false)] := by
    rw [show p = _ from congrArg (fun start => start.turns true Turn.crossing) hstart]
    decide +kernel
  have hthird : p.resultAt? 2 = some (.ok false) := by
    obtain ⟨-, -, htold⟩ : _ ∧ _ ∧ (p.resultAt? 2).map Except.toOption = some (some false) := by
      simpa using hresults
    obtain ⟨result, hfound, hkept⟩ := Option.map_eq_some_iff.mp htold
    cases result with
    | error cause => cases hkept
    | ok written => rw [hfound, Option.some.inj hkept]
  have hsafe := concurrent_stores_are_safe (c := c) (p := p) (by decide)
    (fun r hr r' hr' _ => (hbytes r hr).2.trans (hbytes r' hr').2.symm) (fun r hr _ hfile => ?_) rfl
  · exact ⟨hresults, (hsafe.2 2 Request.thrice[2] rfl).1 false hthird⟩
  · rw [(hbytes r hr).1, (hbytes r hr).2] at hfile
    exact absurd (hmissing.symm.trans hfile) Bool.false_ne_true

end Cache

end ImageImports
