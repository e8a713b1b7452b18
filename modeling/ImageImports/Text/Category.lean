import ImageImports.Text.Category.Letters
import ImageImports.Text.Category.Marks
import ImageImports.Text.Category.Signs

/-!
# General categories

Every code point lies in exactly one of thirty categories; the last of them takes what no table
assigns.

## Main definitions

* `Category`: the categories.
* `Category.holds`: whether a character lies in a category.
-/

namespace ImageImports.Text

/-- The general category of a character. -/
inductive Category where
  | uppercaseLetter | lowercaseLetter | titlecaseLetter | modifierLetter | otherLetter
  | nonspacingMark | spacingMark | enclosingMark
  | decimalNumber | letterNumber | otherNumber
  | connectorPunctuation | dashPunctuation | openPunctuation | closePunctuation
  | initialPunctuation | finalPunctuation | otherPunctuation
  | mathSymbol | currencySymbol | modifierSymbol | otherSymbol
  | spaceSeparator | lineSeparator | paragraphSeparator
  | control | format | surrogate | privateUse | unassigned
  deriving DecidableEq, Repr

namespace Category

/-- The categories that have a table. -/
def assigned : List Category :=
  [.uppercaseLetter, .lowercaseLetter, .titlecaseLetter, .modifierLetter, .otherLetter,
   .nonspacingMark, .spacingMark, .enclosingMark, .decimalNumber, .letterNumber, .otherNumber,
   .connectorPunctuation, .dashPunctuation, .openPunctuation, .closePunctuation,
   .initialPunctuation, .finalPunctuation, .otherPunctuation, .mathSymbol, .currencySymbol,
   .modifierSymbol, .otherSymbol, .spaceSeparator, .lineSeparator, .paragraphSeparator, .control,
   .format, .surrogate, .privateUse]

/-- The table of a category; the unassigned code points have none. -/
def stretches : Category → List Stretch
  | .uppercaseLetter => CategoryTable.uppercaseLetters
  | .lowercaseLetter => CategoryTable.lowercaseLetters
  | .titlecaseLetter => CategoryTable.titlecaseLetters
  | .modifierLetter => CategoryTable.modifierLetters
  | .otherLetter => CategoryTable.otherLetters
  | .nonspacingMark => CategoryTable.nonspacingMarks
  | .spacingMark => CategoryTable.spacingMarks
  | .enclosingMark => CategoryTable.enclosingMarks
  | .decimalNumber => CategoryTable.decimalNumbers
  | .letterNumber => CategoryTable.letterNumbers
  | .otherNumber => CategoryTable.otherNumbers
  | .connectorPunctuation => CategoryTable.connectorPunctuation
  | .dashPunctuation => CategoryTable.dashPunctuation
  | .openPunctuation => CategoryTable.openPunctuation
  | .closePunctuation => CategoryTable.closePunctuation
  | .initialPunctuation => CategoryTable.initialPunctuation
  | .finalPunctuation => CategoryTable.finalPunctuation
  | .otherPunctuation => CategoryTable.otherPunctuation
  | .mathSymbol => CategoryTable.mathSymbols
  | .currencySymbol => CategoryTable.currencySymbols
  | .modifierSymbol => CategoryTable.modifierSymbols
  | .otherSymbol => CategoryTable.otherSymbols
  | .spaceSeparator => CategoryTable.spaceSeparators
  | .lineSeparator => CategoryTable.lineSeparators
  | .paragraphSeparator => CategoryTable.paragraphSeparators
  | .control => CategoryTable.controls
  | .format => CategoryTable.formats
  | .surrogate => CategoryTable.surrogates
  | .privateUse => CategoryTable.privateUse
  | .unassigned => []

/-- A character lies in a category. -/
def holds (category : Category) (c : Char) : Bool :=
  match category with
  | .unassigned => assigned.all fun other => !Stretch.covers other.stretches c
  | _ => Stretch.covers category.stretches c

/-- The letters of every kind. -/
def letters : List Category :=
  [.uppercaseLetter, .lowercaseLetter, .titlecaseLetter, .modifierLetter, .otherLetter]

/-- The marks of every kind. -/
def marks : List Category := [.nonspacingMark, .spacingMark, .enclosingMark]

/-- The numbers of every kind. -/
def numbers : List Category := [.decimalNumber, .letterNumber, .otherNumber]

/-- The punctuation of every kind. -/
def punctuation : List Category :=
  [.connectorPunctuation, .dashPunctuation, .openPunctuation, .closePunctuation,
   .initialPunctuation, .finalPunctuation, .otherPunctuation]

/-- The signs of every kind. -/
def symbols : List Category := [.mathSymbol, .currencySymbol, .modifierSymbol, .otherSymbol]

/-- The separators of every kind. -/
def separators : List Category := [.spaceSeparator, .lineSeparator, .paragraphSeparator]

/-- What is neither letter, mark, number, punctuation, sign nor separator. -/
def others : List Category := [.control, .format, .surrogate, .privateUse, .unassigned]

end Category

end ImageImports.Text
