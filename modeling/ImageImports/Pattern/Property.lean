import ImageImports.Text.Alphabetic
import ImageImports.Text.Blank
import ImageImports.Text.Category
import ImageImports.Text.Script

/-!
# Properties in patterns

A pattern may ask for a property of a character by its name. Case, blanks, hyphens and underscores
in the name do not count, nor does a leading `is`.

## Main definitions

* `Pattern.Property`: a property of characters.
* `Pattern.Property.holds`: a character has the property.
* `Pattern.Property.named?`: the property with a name.
-/

namespace ImageImports.Pattern

open Text

/-- A property of characters. -/
inductive Property where
  | any
  | ascii
  | alphabetic
  | lowercase
  | uppercase
  | blank
  | categories (list : List Category)
  | assigned
  | script (s : Script)
  deriving Repr

namespace Property

/-- A character has a property. -/
def holds : Property → Char → Bool
  | .any, _ => true
  | .ascii, c => c.toNat < 0x80
  | .alphabetic, c => isAlphabetic c
  | .lowercase, c => isLowercase c
  | .uppercase, c => isUppercase c
  | .blank, c => isBlank c
  | .categories list, c => list.any (·.holds c)
  | .assigned, c => !Category.unassigned.holds c
  | .script s, c => Stretch.covers s.stretches c

/-- How many stretches of characters have a property, roughly. -/
def size : Property → Nat
  | .any | .ascii => 1
  | .blank => 10
  | .categories list => list.foldr (fun category size => category.stretches.length + size) 1
  | .script s => s.stretches.length
  | .alphabetic | .lowercase | .uppercase | .assigned => 700

/-- The general categories and groups of them, by all their names. -/
def categoryNames : List (List String × List Category) :=
  [(["c", "other"], Category.others), (["cc", "control", "cntrl"], [.control]),
   (["cf", "format"], [.format]), (["cn", "unassigned"], [.unassigned]),
   (["co", "privateuse"], [.privateUse]), (["cs", "surrogate"], [.surrogate]),
   (["l", "letter"], Category.letters),
   (["lc", "casedletter"], [.lowercaseLetter, .titlecaseLetter, .uppercaseLetter]),
   (["ll", "lowercaseletter"], [.lowercaseLetter]), (["lm", "modifierletter"], [.modifierLetter]),
   (["lo", "otherletter"], [.otherLetter]), (["lt", "titlecaseletter"], [.titlecaseLetter]),
   (["lu", "uppercaseletter"], [.uppercaseLetter]),
   (["m", "mark", "combiningmark"], Category.marks), (["mc", "spacingmark"], [.spacingMark]),
   (["me", "enclosingmark"], [.enclosingMark]), (["mn", "nonspacingmark"], [.nonspacingMark]),
   (["n", "number"], Category.numbers), (["nd", "decimalnumber", "digit"], [.decimalNumber]),
   (["nl", "letternumber"], [.letterNumber]), (["no", "othernumber"], [.otherNumber]),
   (["p", "punctuation", "punct"], Category.punctuation),
   (["pc", "connectorpunctuation"], [.connectorPunctuation]),
   (["pd", "dashpunctuation"], [.dashPunctuation]),
   (["pe", "closepunctuation"], [.closePunctuation]),
   (["pf", "finalpunctuation"], [.finalPunctuation]),
   (["pi", "initialpunctuation"], [.initialPunctuation]),
   (["po", "otherpunctuation"], [.otherPunctuation]),
   (["ps", "openpunctuation"], [.openPunctuation]), (["s", "symbol"], Category.symbols),
   (["sc", "currencysymbol"], [.currencySymbol]), (["sk", "modifiersymbol"], [.modifierSymbol]),
   (["sm", "mathsymbol"], [.mathSymbol]), (["so", "othersymbol"], [.otherSymbol]),
   (["z", "separator"], Category.separators), (["zl", "lineseparator"], [.lineSeparator]),
   (["zp", "paragraphseparator"], [.paragraphSeparator]),
   (["zs", "spaceseparator"], [.spaceSeparator])]

/-- A name without case, blanks, hyphens, underscores and a leading `is`. -/
def plainName (name : List Char) : String :=
  let kept := (name.filter fun c => !(c == ' ' || c == '_' || c == '-') && c.toNat < 0x80).map
    Char.toLower
  match kept with
  | 'i' :: 's' :: rest => String.ofList (if rest = ['c'] then kept else rest)
  | _ => String.ofList kept

/-- The general category with a plain name. -/
def category? (name : String) : Option Property :=
  match name with
  | "any" => some .any
  | "assigned" => some .assigned
  | "ascii" => some .ascii
  | _ => (categoryNames.find? (·.1.contains name)).map fun entry => .categories entry.2

/-- The script with a plain name. -/
def script? (name : String) : Option Property := (Script.named? name).map .script

/-- A property of its own with a plain name. -/
def simple? (name : String) : Option Property :=
  match name with
  | "alphabetic" | "alpha" => some .alphabetic
  | "lowercase" | "lower" => some .lowercase
  | "uppercase" | "upper" => some .uppercase
  | "whitespace" | "space" | "wspace" => some .blank
  | _ => none

/-- The property with a name. -/
def named? (name : List Char) : Option Property :=
  let name := plainName name
  (simple? name).or ((category? name).or (script? name))

/-- The property with a kind and a value. -/
def ofKind? (kind value : List Char) : Option Property :=
  let value := plainName value
  match plainName kind with
  | "gc" | "generalcategory" => category? value
  | "sc" | "script" | "scx" | "scriptextensions" => script? value
  | _ => none

end Property

end ImageImports.Pattern
