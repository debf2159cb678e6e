import ClusterNet.Text.Blank
import ClusterNet.Text.Decimal

/-!
# Timestamps

Texts that name a point in time: a date, a time of day and an offset from universal time, such as
`2024-05-01T12:30:00.25+02:00`.

## Main definitions

* `Text.isTimestamp` — whether a text names a point in time.

## What is accepted

Blanks may stand before every number and every mark, the date and the time are separated by one
`T` or one blank, numbers may lack their leading zeros, the year may have a sign and then any
number of digits, and the offset may be `Z`, `UTC`, or hours and minutes. A second may be the
sixtieth.
-/

namespace ClusterNet

namespace Text

/-- What follows the blanks ahead. -/
def skipBlanks (cs : List Char) : List Char := cs.dropWhile isBlank

/-- The digits ahead, at most `width` of them, and what follows them. -/
def digitsUpTo (width : Nat) (cs : List Char) : List Char × List Char :=
  let digits := (cs.take width).takeWhile isDigit
  (digits, cs.drop digits.length)

/-- The number ahead, of at least one and at most `width` digits, behind any blanks. -/
def numberAhead (width : Nat) (cs : List Char) : Option (Nat × List Char) :=
  let (digits, rest) := digitsUpTo width (skipBlanks cs)
  (number? 10 digits).map fun n => (n, rest)

/-- What follows a mark that lies ahead behind any blanks. -/
def markAhead (mark : Char) (cs : List Char) : Option (List Char) :=
  match skipBlanks cs with
  | c :: rest => if c = mark then some rest else none
  | [] => none

/-- The year ahead: at most four digits, or any number of them behind a sign. -/
def yearAhead (cs : List Char) : Option (Int × List Char) :=
  match skipBlanks cs with
  | '-' :: rest =>
    if rest.head?.any isDigit then
      (numberAhead rest.length rest).map fun (n, rest) => (-(n : Int), rest)
    else none
  | '+' :: rest =>
    if rest.head?.any isDigit then
      (numberAhead rest.length rest).map fun (n, rest) => ((n : Int), rest)
    else none
  | rest => (numberAhead 4 rest).map fun (n, rest) => ((n : Int), rest)

/-- Whether a year has a 29th of February. -/
def isLeapYear (year : Int) : Bool :=
  year % 4 == 0 && (year % 100 != 0 || year % 400 == 0)

/-- The number of days in a month. -/
def daysIn (year : Int) (month : Nat) : Nat :=
  if month = 2 then if isLeapYear year then 29 else 28
  else if [4, 6, 9, 11].contains month then 30
  else 31

/-- Whether a day exists. -/
def isDay (year : Int) (month day : Nat) : Bool :=
  -262143 ≤ year && year ≤ 262142 && 1 ≤ month && month ≤ 12 && 1 ≤ day && day ≤ daysIn year month

/-- What follows the day that lies ahead. -/
def dayAhead (cs : List Char) : Option (List Char) := do
  let (year, cs) ← yearAhead cs
  let (month, cs) ← numberAhead 2 (← markAhead '-' cs)
  let (day, cs) ← numberAhead 2 (← markAhead '-' cs)
  if isDay year month day then some cs else none

/-- What follows the fraction of a second that may lie ahead. -/
def fractionAhead (cs : List Char) : Option (List Char) :=
  match cs with
  | '.' :: rest => if rest.head?.any isDigit then some (rest.dropWhile isDigit) else none
  | cs => some cs

/-- What follows the time of day that lies ahead. -/
def timeAhead (cs : List Char) : Option (List Char) := do
  let (hour, cs) ← numberAhead 2 cs
  let (minute, cs) ← numberAhead 2 (← markAhead ':' cs)
  let (second, cs) ← numberAhead 2 (← markAhead ':' cs)
  if hour < 24 && minute < 60 && second ≤ 60 then fractionAhead cs else none

/-- What follows the hours and minutes that lie ahead. Colons and blanks may separate them. -/
def hoursAhead (cs : List Char) : Option (List Char) := do
  let (hours, cs) := digitsUpTo 2 cs
  let (minutes, cs) := digitsUpTo 2 (cs.dropWhile fun c => c == ':' || isBlank c)
  let h ← number? 10 hours
  let m ← number? 10 minutes
  if hours.length = 2 && minutes.length = 2 && m < 60 && h < 24 then some cs else none

/-- What follows the offset that lies ahead. -/
def offsetAhead (cs : List Char) : Option (List Char) :=
  match cs with
  | [] => none
  | c :: rest =>
    if c == 'Z' || c == 'z' then some rest
    else if c == '+' || c == '-' || c == '−' then hoursAhead rest
    else if (cs.take 3).map Char.toUpper == ['U', 'T', 'C'] then some (cs.drop 3)
    else none

/-- Whether the text names a point in time. -/
def isTimestamp (s : String) : Bool :=
  match dayAhead s.toList with
  | some (c :: cs) =>
    if c == 'T' || c == 't' || c == ' ' then
      match (timeAhead cs).bind fun cs => offsetAhead (skipBlanks cs) with
      | some rest => rest.all isBlank
      | none => false
    else false
  | _ => false

end Text

end ClusterNet
