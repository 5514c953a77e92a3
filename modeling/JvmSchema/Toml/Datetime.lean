/-!
# TOML dates and times

A date, a time, or a date and a time with or without an offset. Days are checked against the month
and the year; a minute may have a second 60.
-/

set_option autoImplicit false
set_option relaxedAutoImplicit false

namespace JvmSchema.Toml

/-- The number in the first `count` digits, if there are as many. -/
def digits? (count : Nat) (text : List Char) : Option (Nat × List Char) :=
  let digits := text.take count
  if digits.length = count ∧ digits.all Char.isDigit then
    some (Nat.ofDigitChars 10 digits 0, text.drop count)
  else none

/-- A number of two digits within bounds. -/
def pair? (least greatest : Nat) (text : List Char) : Option (Nat × List Char) := do
  let (value, rest) ← digits? 2 text
  if least ≤ value ∧ value ≤ greatest then return (value, rest) else none

/-- What follows the given character. -/
def skip? (char : Char) : List Char → Option (List Char)
  | first :: rest => if first = char then some rest else none
  | [] => none

/-- The number of days of a month. -/
def daysInMonth (year month : Nat) : Nat :=
  if month = 2 then
    if year % 4 = 0 ∧ (year % 100 ≠ 0 ∨ year % 400 = 0) then 29 else 28
  else if month = 4 ∨ month = 6 ∨ month = 9 ∨ month = 11 then 30
  else 31

/-- Whether `count` digits and the given mark start here. -/
def startsDigits (count : Nat) (mark : Char) (text : List Char) : Bool :=
  ((digits? count text).bind fun (_, rest) ↦ skip? mark rest).isSome

/-- Whether a year and its hyphen start here. -/
def startsDate (text : List Char) : Bool :=
  startsDigits 4 '-' text

/-- Whether an hour and its colon start here. -/
def startsTime (text : List Char) : Bool :=
  startsDigits 2 ':' text

/-- What follows a date. -/
def date? (text : List Char) : Option (List Char) := do
  let (year, rest) ← digits? 4 text
  let (month, rest) ← pair? 1 12 (← skip? '-' rest)
  let (_, rest) ← pair? 1 (daysInMonth year month) (← skip? '-' rest)
  return rest

/-- What follows the fraction of a second, if there is one. -/
def skipFraction : List Char → List Char
  | '.' :: digit :: rest =>
    if digit.isDigit then rest.dropWhile Char.isDigit else '.' :: digit :: rest
  | text => text

/-- What follows a time. -/
def time? (text : List Char) : Option (List Char) := do
  let (_, rest) ← pair? 0 23 text
  let (_, rest) ← pair? 0 59 (← skip? ':' rest)
  let (_, rest) ← pair? 0 60 (← skip? ':' rest)
  return skipFraction rest

/-- What follows an offset, if there is one. -/
def offset? : List Char → Option (List Char)
  | [] => some []
  | char :: rest =>
    if char = 'Z' ∨ char = 'z' then some rest
    else if char = '+' ∨ char = '-' then do
      let (_, rest) ← pair? 0 23 rest
      let (_, rest) ← pair? 0 59 (← skip? ':' rest)
      return rest
    else some (char :: rest)

/-- Whether a character may stand between a date and a time. -/
def isDelimiter (char : Char) : Bool :=
  char = 'T' ∨ char = 't' ∨ char = ' '

/-- What follows a date and the time after it, if there is one. -/
def dateAndTime? (text : List Char) : Option (List Char) := do
  match ← date? text with
  | [] => return []
  | char :: rest =>
    if isDelimiter char ∧ startsTime rest then offset? (← time? rest) else return char :: rest

/-- Whether a date or a time starts here. -/
def startsDatetime (text : List Char) : Bool :=
  startsDate text ∨ startsTime text

/-- The date or the time at the start of a text, as it is written. -/
def datetime? (text : List Char) : Option (List Char × List Char) := do
  let rest ← if startsDate text then dateAndTime? text else time? text
  return (text.take (text.length - rest.length), rest)

end JvmSchema.Toml
