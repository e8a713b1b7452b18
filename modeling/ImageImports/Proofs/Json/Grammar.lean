import ImageImports.Json.Draft

/-!
# Texts of JSON values

A value is written as a sequence of tokens, and a text spells the tokens with white space around
them. There are many spellings: a character of a string stands for itself or is escaped, an escape
has a letter or the number of a code unit, and an exponent may have a sign.

A value says how its strings and numbers are written, and nothing of white space. So it tells
apart what a reader may tell apart, also a half of a pair of code units that stands alone.

## Main definitions

* `Json.Value`: a JSON value.
* `Json.Denotes`: the text that a string stands for.
* `Json.Value.tokens`: the tokens of a value.
* `Json.Lexeme`: the spellings of a token.
* `Json.Spells`: the texts that spell some tokens.
* `Json.Value.IsWrittenAs`: a text writes a value.
-/

namespace ImageImports.Json

/-! ### Values -/

/-- What stands at one place of a string: a character, or the escape of a code unit. -/
inductive Mark where
  | char (c : Char)
  | unit (code : UInt16)
  deriving DecidableEq, Repr

/-- The piece that a reader finds for a mark. -/
def Mark.piece : Mark → Piece
  | .char c => .char c
  | .unit code => .escaped code.toNat

/-- The code units of a character: one, or a pair for a character beyond the first plane. -/
def codeUnits (c : Char) : List UInt16 :=
  if c.toNat < 0x10000 then [.ofNat c.toNat]
  else [.ofNat (0xD800 + (c.toNat - 0x10000) / 0x400),
    .ofNat (0xDC00 + (c.toNat - 0x10000) % 0x400)]

/-- The marks of a string stand for a text if each of its characters is given as it is, or by
escapes of its code units. -/
inductive Denotes : List Mark → List Char → Prop
  | nil : Denotes [] []
  | char {c : Char} {marks : List Mark} {text : List Char} (h : Denotes marks text) :
      Denotes (.char c :: marks) (c :: text)
  | units {c : Char} {marks : List Mark} {text : List Char} (h : Denotes marks text) :
      Denotes ((codeUnits c).map .unit ++ marks) (c :: text)

theorem Denotes.map_char : (text : List Char) → Denotes (text.map .char) text
  | [] => .nil
  | _ :: text => .char (map_char text)

/-- A JSON value, with its strings and numbers as they are written. -/
inductive Value where
  | null
  | bool (value : Bool)
  | number (literal : Literal)
  | string (marks : List Mark)
  | array (elements : List Value)
  | object (members : List (List Mark × Value))

namespace Value

/-- The types of values. -/
inductive Ty where
  | null
  | bool
  | number
  | string
  | array
  | object
  deriving DecidableEq, Repr

/-- The type of a value. -/
def ty : Value → Ty
  | .null => .null
  | .bool _ => .bool
  | .number _ => .number
  | .string _ => .string
  | .array _ => .array
  | .object _ => .object

/-- A value is a scalar, but not of the type that is expected. Arrays and objects are no
scalars. -/
structure IsOtherScalar (v : Value) (expected : Ty) : Prop where
  ne : v.ty ≠ expected
  notArray : v.ty ≠ .array
  notObject : v.ty ≠ .object

mutual

/-- The draft of a value that was read to its end. -/
def draft : Value → Draft
  | .null => .null
  | .bool value => .bool value
  | .number literal => .number literal
  | .string marks => .string (marks.map Mark.piece)
  | .array elements => .array (draftElements elements) true
  | .object members => .object (draftMembers members) true
  termination_by structural v => v

/-- The drafts of the elements of an array. -/
def draftElements : List Value → List Draft
  | [] => []
  | v :: rest => v.draft :: draftElements rest
  termination_by structural vs => vs

/-- The drafts of the members of an object. -/
def draftMembers : List (List Mark × Value) → List (Draft × Draft)
  | [] => []
  | (name, v) :: rest => (.string (name.map Mark.piece), v.draft) :: draftMembers rest
  termination_by structural members => members

end

theorem draftElements_eq_map (elements : List Value) :
    draftElements elements = elements.map draft := by
  induction elements with
  | nil => rfl
  | cons v rest ih => rw [draftElements, ih, List.map_cons]

theorem isWhole_draft (v : Value) : v.draft.isWhole = true := by
  cases v <;> rfl

/-! ### Tokens -/

mutual

/-- The tokens of a value. -/
def tokens : Value → List Token
  | .null => [.null]
  | .bool value => [.bool value]
  | .number literal => [.number literal]
  | .string marks => [.string (marks.map Mark.piece)]
  | .array elements => .openBracket :: firstElement elements
  | .object members => .openBrace :: firstMember members
  termination_by structural v => v

/-- The tokens of an array after its opening bracket. -/
def firstElement : List Value → List Token
  | [] => [.closeBracket]
  | v :: rest => v.tokens ++ nextElement rest
  termination_by structural vs => vs

/-- The tokens of an array after one of its elements. -/
def nextElement : List Value → List Token
  | [] => [.closeBracket]
  | v :: rest => .comma :: (v.tokens ++ nextElement rest)
  termination_by structural vs => vs

/-- The tokens of an object after its opening bracket. -/
def firstMember : List (List Mark × Value) → List Token
  | [] => [.closeBrace]
  | (name, v) :: rest =>
    .string (name.map Mark.piece) :: .colon :: (v.tokens ++ nextMember rest)
  termination_by structural members => members

/-- The tokens of an object after one of its members. -/
def nextMember : List (List Mark × Value) → List Token
  | [] => [.closeBrace]
  | (name, v) :: rest =>
    .comma :: .string (name.map Mark.piece) :: .colon :: (v.tokens ++ nextMember rest)
  termination_by structural members => members

end

end Value

/-! ### Spellings -/

/-- The hexadecimal digits of either case, with their values. -/
def hexDigits : List (Char × Nat) :=
  "0123456789abcdef".toList.zipIdx ++ "0123456789ABCDEF".toList.zipIdx

/-- The letters of the short escapes, with the characters that they stand for. -/
def letterEscapes : List (Char × Char) :=
  [('"', '"'), ('\\', '\\'), ('/', '/'), ('b', '\x08'), ('f', '\x0c'), ('n', '\n'), ('r', '\r'),
   ('t', '\t')]

/-- A character that needs no escape: no quote, no backslash and no control character. -/
def isPlain (c : Char) : Bool := c != '"' && c != '\\' && 0x20 ≤ c.toNat

/-- The spellings of a mark. -/
inductive MarkText : Mark → List Char → Prop
  | plain {c : Char} (h : isPlain c = true) : MarkText (.char c) [c]
  | letter {e c : Char} (h : (e, c) ∈ letterEscapes) : MarkText (.char c) ['\\', e]
  | unit {a b c d : Char} {w x y z : Nat} {code : UInt16} (ha : (a, w) ∈ hexDigits)
      (hb : (b, x) ∈ hexDigits) (hc : (c, y) ∈ hexDigits) (hd : (d, z) ∈ hexDigits)
      (hcode : code.toNat = ((w * 16 + x) * 16 + y) * 16 + z) :
      MarkText (.unit code) ['\\', 'u', a, b, c, d]

/-- The spellings of the marks of a string. -/
inductive MarksText : List Mark → List Char → Prop
  | nil : MarksText [] []
  | cons {mark : Mark} {marks : List Mark} {s t : List Char} (h : MarkText mark s)
      (hrest : MarksText marks t) : MarksText (mark :: marks) (s ++ t)

theorem MarksText.map_char : {text : List Char} → text.all isPlain = true →
    MarksText (text.map .char) text
  | [], _ => .nil
  | c :: text, h => by
    rw [List.all_cons, Bool.and_eq_true] at h
    exact .cons (.plain h.1) (map_char h.2)

/-- At least one digit, and nothing else. -/
def IsDigits (cs : List Char) : Prop := cs ≠ [] ∧ ∀ c ∈ cs, c.isDigit = true

/-- The spellings of the digits after a point. -/
inductive FractionText : Option (List Char) → List Char → Prop
  | absent : FractionText none []
  | present {digits : List Char} (h : IsDigits digits) :
      FractionText (some digits) ('.' :: digits)

/-- The signs of an exponent: whether it is negative, and how that is spelled. -/
def exponentSigns : List (Bool × List Char) := [(false, []), (false, ['+']), (true, ['-'])]

/-- The spellings of an exponent. -/
inductive ExponentText : Option (Bool × List Char) → List Char → Prop
  | absent : ExponentText none []
  | present {letter : Char} {down : Bool} {sign digits : List Char}
      (hletter : letter = 'e' ∨ letter = 'E') (hsign : (down, sign) ∈ exponentSigns)
      (h : IsDigits digits) : ExponentText (some (down, digits)) (letter :: (sign ++ digits))

/-- The spellings of a number. Its digits before the point do not start with a needless zero. -/
inductive NumberText (literal : Literal) : List Char → Prop
  | mk {fraction exponent : List Char} (hwhole : IsDigits literal.whole)
      (hzero : literal.whole.head? = some '0' → literal.whole = ['0'])
      (hfraction : FractionText literal.fraction fraction)
      (hexponent : ExponentText literal.exponent exponent) :
      NumberText literal ((if literal.negative then ['-'] else []) ++
        (literal.whole ++ (fraction ++ exponent)))

/-- The tokens that have one spelling. -/
def fixedLexemes : List (Token × List Char) :=
  [(.openBrace, ['{']), (.closeBrace, ['}']), (.openBracket, ['[']), (.closeBracket, [']']),
   (.colon, [':']), (.comma, [',']), (.null, ['n', 'u', 'l', 'l']),
   (.bool true, ['t', 'r', 'u', 'e']), (.bool false, ['f', 'a', 'l', 's', 'e'])]

/-- The spellings of a token. -/
inductive Lexeme : Token → List Char → Prop
  | fixed {token : Token} {s : List Char} (h : (token, s) ∈ fixedLexemes) : Lexeme token s
  | string {marks : List Mark} {s : List Char} (h : MarksText marks s) :
      Lexeme (.string (marks.map Mark.piece)) ('"' :: (s ++ ['"']))
  | number {literal : Literal} {s : List Char} (h : NumberText literal s) :
      Lexeme (.number literal) s

/-- A text goes on as a number could go on. -/
def continuesNumber : List Char → Bool
  | [] => false
  | c :: _ => c.isDigit || c == '.' || c == 'e' || c == 'E'

/-- A text spells some tokens, with white space before, between and after them. A number goes as
far as it can. -/
inductive Spells : List Char → List Token → Prop
  | done {gap : List Char} (hgap : ∀ c ∈ gap, isGap c = true) : Spells gap []
  | next {gap lexeme rest : List Char} {token : Token} {ts : List Token}
      (hgap : ∀ c ∈ gap, isGap c = true) (hlexeme : Lexeme token lexeme)
      (hend : ∀ literal, token = .number literal → continuesNumber rest = false)
      (hrest : Spells rest ts) : Spells (gap ++ (lexeme ++ rest)) (token :: ts)

namespace Spells

variable {s rest : List Char} {token : Token} {ts : List Token}

theorem nil : Spells [] [] := .done (List.forall_mem_nil _)

theorem adjacent (h : Lexeme token s)
    (hend : ∀ literal, token = .number literal → continuesNumber rest = false)
    (hrest : Spells rest ts) : Spells (s ++ rest) (token :: ts) :=
  .next (List.forall_mem_nil _) h hend hrest

theorem space (h : Spells s ts) : Spells (' ' :: s) ts := by
  cases h with
  | done hgap => exact .done (List.forall_mem_cons.mpr ⟨rfl, hgap⟩)
  | @next gap _ _ _ _ hgap hlexeme hend hrest =>
    have hspace : ∀ c ∈ ' ' :: gap, isGap c = true := List.forall_mem_cons.mpr ⟨rfl, hgap⟩
    exact .next hspace hlexeme hend hrest

theorem fixed (h : (token, s) ∈ fixedLexemes) (hrest : Spells rest ts) :
    Spells (s ++ rest) (token :: ts) := by
  refine .adjacent (.fixed h) ?_ hrest
  rintro _ rfl
  simp [fixedLexemes] at h

theorem string {marks : List Mark} (h : MarksText marks s) (hrest : Spells rest ts) :
    Spells ('"' :: (s ++ ['"']) ++ rest) (.string (marks.map Mark.piece) :: ts) :=
  .adjacent (.string h) nofun hrest

theorem name {name : String} (h : name.toList.all isPlain = true) (hrest : Spells rest ts) :
    Spells ('"' :: (name.toList ++ ['"']) ++ ([':'] ++ rest))
      (.string ((name.toList.map .char).map Mark.piece) :: .colon :: ts) :=
  .string (.map_char h) (.fixed (by decide) hrest)

/-- A number may come before everything but what continues a number. -/
theorem number {literal : Literal} (h : NumberText literal s)
    (hend : continuesNumber rest = false) (hrest : Spells rest ts) :
    Spells (s ++ rest) (.number literal :: ts) :=
  .adjacent (.number h) (fun _ _ => hend) hrest

end Spells

/-- A text writes a value. -/
def Value.IsWrittenAs (v : Value) (text : String) : Prop := Spells text.toList v.tokens

end ImageImports.Json
