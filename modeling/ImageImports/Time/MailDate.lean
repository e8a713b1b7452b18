import ImageImports.Text.Blank
import ImageImports.Text.Digit
import ImageImports.Time.Calendar

/-!
# Dates in headers

The date format of mail and HTTP headers: `Wed, 21 Oct 2015 07:28:00 GMT`. The name of the day may
be missing, years may be short, and comments may follow.

## Main definitions

* `MailDate.read?`: the instant that a text names.
-/

namespace ImageImports.MailDate

/-- The names of the days of the week, from Monday on. -/
def dayNames : List (List Char) :=
  ["mon", "tue", "wed", "thu", "fri", "sat", "sun"].map String.toList

/-- The names of the months. -/
def monthNames : List (List Char) :=
  ["jan", "feb", "mar", "apr", "may", "jun", "jul", "aug", "sep", "oct", "nov", "dec"].map
    String.toList

/-- The position of the name of three letters that a text starts with, and the text after it. -/
def readName? (names : List (List Char)) (cs : List Char) : Option (Nat × List Char) :=
  (names.findIdx? (· == (cs.take 3).map Char.toLower)).map (·, cs.drop 3)

/-- A text without the white space at its start. -/
def skip (cs : List Char) : List Char := cs.dropWhile Text.isBlank

/-- A text after white space, of which there has to be some. -/
def readSpace? (cs : List Char) : Option (List Char) :=
  match cs with
  | c :: rest => if Text.isBlank c then some (skip rest) else none
  | [] => none

/-- A number of at least and at most so many digits. -/
def readNumber? (least most : Nat) (cs : List Char) : Option (Nat × List Char) :=
  let digits := (cs.take most).takeWhile Char.isDigit
  if digits.length < least then none
  else (Text.digitsValue? 10 digits).map (·, cs.drop digits.length)

/-- A colon with white space before it. -/
def readColon? (cs : List Char) : Option (List Char) :=
  match skip cs with
  | ':' :: rest => some rest
  | _ => none

/-- The day of the week at the start of a text, where there is one. A comma has to follow. -/
def readWeekday? (cs : List Char) : Option (Option Nat × List Char) :=
  match readName? dayNames cs with
  | none => some (none, cs)
  | some (day, ',' :: rest) => some (some day, rest)
  | some _ => none

/-- A year. Two digits mean a year from 1950 to 2049, and three count from 1900. -/
def readYear? (cs : List Char) : Option (Nat × List Char) := do
  let (year, rest) ← readNumber? 2 cs.length cs
  match cs.length - rest.length with
  | 2 => return (if year < 50 then year + 2000 else year + 1900, rest)
  | 3 => return (year + 1900, rest)
  | _ => return (year, rest)

/-- The named zones and their distance from Greenwich in hours. -/
def zoneNames : List (String × Int) :=
  [("gmt", 0), ("ut", 0), ("z", 0), ("edt", -4), ("est", -5), ("cdt", -5), ("cst", -6),
   ("mdt", -6), ("mst", -7), ("pdt", -7), ("pst", -8)]

/-- The distance of a named zone in seconds. A single letter other than J names no zone that is
known and counts as Greenwich. -/
def namedZone? (name : List Char) : Option Int :=
  let name := name.map Char.toLower
  match zoneNames.lookup (String.ofList name) with
  | some hours => some (hours * 3600)
  | none =>
    match name with
    | [c] => if c == 'j' then none else some 0
    | _ => none

/-- The distance of a zone in seconds: a name, or a sign and four digits. -/
def readZone? (cs : List Char) : Option (Int × List Char) :=
  match cs.span Char.isAlpha with
  | ([], '+' :: rest) => readOffset? 1 rest
  | ([], '-' :: rest) => readOffset? (-1) rest
  | ([], _) => none
  | (name, rest) => (namedZone? name).map (·, rest)
where
  readOffset? (sign : Int) (cs : List Char) : Option (Int × List Char) := do
    let (hours, rest) ← readNumber? 2 2 cs
    let (minutes, rest) ← readNumber? 2 2 rest
    if hours < 24 ∧ minutes < 60 then some (sign * (hours * 3600 + minutes * 60), rest) else none

/-- The text after a comment that is open so many times. A backslash takes the meaning from the
character after it. -/
def closeComment? : Nat → List Char → Option (List Char)
  | _, [] => none
  | depth, '\\' :: _ :: rest => closeComment? depth rest
  | depth, '(' :: rest => closeComment? (depth + 1) rest
  | 1, ')' :: rest => some rest
  | depth, ')' :: rest => closeComment? (depth - 1) rest
  | depth, _ :: rest => closeComment? depth rest

/-- Nothing but comments is left, of which there are at most as many as characters. -/
def onlyComments : Nat → List Char → Bool
  | 0, cs => cs.isEmpty
  | steps + 1, cs =>
    match skip cs with
    | '(' :: rest => (closeComment? 1 rest).any (onlyComments steps)
    | _ => cs.isEmpty

/-- The second of a minute, where it is given. -/
def readSecond? (cs : List Char) : Option (Nat × List Char) :=
  match readColon? cs with
  | some rest => readNumber? 2 2 rest
  | none => some (0, cs)

/-- The last year of the calendar. -/
def lastYear : Nat := 262142

/-- The instant that a text names. The day of the week has to fit, and a sixtieth second is the
one after the fifty-ninth. -/
def read? (cs : List Char) : Option Instant := do
  let (weekday, rest) ← readWeekday? (skip cs)
  let (day, rest) ← readNumber? 1 2 (skip rest)
  let (month, rest) ← readName? monthNames (← readSpace? rest)
  let (year, rest) ← readYear? (← readSpace? rest)
  let (hour, rest) ← readNumber? 2 2 (← readSpace? rest)
  let (minute, rest) ← readNumber? 2 2 (skip (← readColon? rest))
  let (second, rest) ← readSecond? rest
  let (zone, rest) ← readZone? (← readSpace? rest)
  let date : Date := ⟨year, month + 1, day⟩
  if onlyComments rest.length rest && date.isValid && year ≤ lastYear && hour < 24 &&
      minute < 60 && second ≤ 60 && weekday.all (· == date.weekday) then
    some (.ofDay date.dayNumber (hour * 3600 + minute * 60 + second - zone))
  else none

end ImageImports.MailDate
