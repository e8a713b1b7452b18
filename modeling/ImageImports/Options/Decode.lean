import ImageImports.Json.Draft
import ImageImports.Options.Basic
import ImageImports.Options.Error

/-!
# Reading options

Options are read from a JSON text from left to right, and the first thing that does not fit is
reported. A record is an object of its members or an array of them in order. Members that are
left out keep their default, and unknown members of an object are skipped.

## Main definitions

* `Options.Member`: the name of a member and the way it is read.
* `Options.decodeRecord`: reads a record from its members.
* `Options.ofJson`: reads options.
-/

namespace ImageImports.Options

open Json

/-! ### Single values -/

/-- The error of a value that stands where something else is expected. A value that cannot be
read at all makes the whole text malformed. -/
def mismatch (d : Draft) (expected : Expected) : OptionsError :=
  match d with
  | .null => .wrongType .null expected
  | .bool value => .wrongType (.boolean value) expected
  | .number literal =>
    match literal.value? with
    | some (.integer n) => .wrongType (.integer n) expected
    | some (.double negative magnitude) => .wrongType (.double negative magnitude) expected
    | none => .malformed
  | .string pieces =>
    match decodePieces? pieces with
    | some value => .wrongType (.text value) expected
    | none => .malformed
  | .array _ _ => .wrongType .sequence expected
  | .object _ _ => .wrongType .map expected
  | .broken => .malformed

/-- The text of a string. -/
def decodeText (expected : Expected) : Draft → Except OptionsError String
  | .string pieces =>
    match decodePieces? pieces with
    | some value => .ok value
    | none => .error .malformed
  | d => .error (mismatch d expected)

/-- The path that a text is. -/
def decodePath (d : Draft) : Except OptionsError Path := (decodeText .path d).map Path.ofText

/-- A truth value. -/
def decodeBool : Draft → Except OptionsError Bool
  | .bool value => .ok value
  | d => .error (mismatch d .boolean)

/-- A number without sign of at most the given width. -/
def decodeNumber (bits : Nat) : Draft → Except OptionsError Nat
  | .number literal =>
    match literal.value? with
    | some (.integer n) =>
      if 0 ≤ n ∧ n < Nat.pow 2 bits then .ok n.toNat else .error (.outOfRange n bits)
    | _ => .error (mismatch (.number literal) (.number bits))
  | d => .error (mismatch d (.number bits))

/-- A value that may be absent. -/
def decodeOptional {α : Type} (decode : Draft → Except OptionsError α) :
    Draft → Except OptionsError (Option α)
  | .null => .ok none
  | d => (decode d).map some

/-- All elements of an array. -/
def decodeList {α : Type} (decode : Draft → Except OptionsError α) :
    Draft → Except OptionsError (List α)
  | .array elements closed => do
    let values ← elements.mapM decode
    if closed then .ok values else .error .malformed
  | d => .error (mismatch d .sequence)

/-- The choice of a given name. -/
def findChoice {α : Type} (choices : List (String × α)) (name : String) :
    Except OptionsError α :=
  match choices.lookup name with
  | some choice => .ok choice
  | none => .error (.unknownChoice name (choices.map Prod.fst))

/-- One of several named choices: its name, or an object whose only member has that name and the
value null. -/
def decodeChoice {α : Type} (choices : List (String × α)) : Draft → Except OptionsError α
  | .string pieces => do findChoice choices (← decodeText .variantName (.string pieces))
  | .object ((name, value) :: others) closed => do
    let choice ← findChoice choices (← decodeText .variantName name)
    match value with
    | .null => if others.isEmpty && closed then .ok choice else .error .malformed
    | d => .error (mismatch d .unit)
  | _ => .error .malformed

/-! ### Records -/

/-- A member of a record: its name, and how its value changes the record. -/
structure Member (σ : Type) where
  name : String
  decode : Draft → σ → Except OptionsError σ

/-- A member whose value is read on its own and then put into the record. -/
def Member.of {σ α : Type} (name : String) (decode : Draft → Except OptionsError α)
    (put : α → σ → σ) : Member σ :=
  ⟨name, fun d record => (decode d).map fun value => put value record⟩

/-- The members of an object from left to right. The names that were met stand in `seen`. -/
def decodeMembers {σ : Type} (members : List (Member σ)) :
    List (Draft × Draft) → List String → σ → Except OptionsError σ
  | [], _, record => .ok record
  | (.string pieces, value) :: rest, seen, record => do
    let name ← decodeText .text (.string pieces)
    match members.find? (·.name == name) with
    | some member =>
      if seen.contains name then .error (.duplicateMember name)
      else decodeMembers members rest (name :: seen) (← member.decode value record)
    | none =>
      if value.isWhole then decodeMembers members rest seen record else .error .malformed
  | _ :: _, _, _ => .error .malformed

/-- The members of an array in order. -/
def decodeElements {σ : Type} :
    List (Member σ) → List Draft → σ → Except OptionsError σ
  | _, [], record => .ok record
  | [], _ :: _, _ => .error .malformed
  | member :: members, value :: rest, record => do
    decodeElements members rest (← member.decode value record)

/-- A record, from an object or from an array. -/
def decodeRecord {σ : Type} (members : List (Member σ)) (expected : Expected) (start : σ) :
    Draft → Except OptionsError σ
  | .object entries closed => do
    let record ← decodeMembers members entries [] start
    if closed then .ok record else .error .malformed
  | .array elements closed => do
    let record ← decodeElements members elements start
    if closed then .ok record else .error .malformed
  | d => .error (mismatch d expected)

/-- The members of the retry options. -/
def retryMembers : List (Member RetryOptions) :=
  [.of "retries" (decodeNumber 32) fun n o => { o with retries := n.toUInt32 },
   .of "delayMs" (decodeNumber 64) fun n o => { o with delayMs := n.toUInt64 },
   .of "statuses" (decodeList (decodeNumber 16)) fun ns o =>
     { o with statuses := ns.map Nat.toUInt16 }]

/-- The members of the options. -/
def members : List (Member Options) :=
  [.of "cacheDirectory" (decodeOptional decodePath) fun value o =>
     { o with cacheDirectory := value },
   .of "factoryPattern" (decodeText .text) fun value o => { o with factoryPattern := value },
   .of "hashEncoding" (decodeChoice encodingChoices) fun value o =>
     { o with hashEncoding := value },
   .of "identifiers" (decodeChoice identifierChoices) fun value o =>
     { o with identifiers := value },
   .of "skipExisting" decodeBool fun value o => { o with skipExisting := value },
   .of "timeoutMs" (decodeOptional (decodeNumber 64)) fun value o =>
     { o with timeoutMs := value.map Nat.toUInt64 },
   .of "retry" (decodeRecord retryMembers .retryOptions {}) fun value o =>
     { o with retry := value }]

/-- Options from a JSON text. After them nothing but white space may follow. -/
def ofJson (text : String) : Except OptionsError Options := do
  let (draft, rest) := Draft.ofTokens (tokens text)
  let options ← decodeRecord members .options {} draft
  if rest.isEmpty then .ok options else .error .malformed

end ImageImports.Options
