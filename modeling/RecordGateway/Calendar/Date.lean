import RecordGateway.Text.Blank
import RecordGateway.Text.Digits

/-!
# Dates

A date of the proleptic Gregorian calendar.  Years run from -262143 to 262142.  A date is
written with four digits of the year, or with a sign and at least four digits when the year lies
outside 0 to 9999; it is read with any number of digits after a sign, up to four without one,
and one or two digits for month and day.
-/

namespace RecordGateway

/-- A year with 366 days. -/
def isLeapYear (year : Int) : Bool :=
  year % 4 == 0 && (year % 100 != 0 || year % 400 == 0)

/-- The number of days of a month, counted from one. -/
def daysInMonth (year : Int) (month : Nat) : Nat :=
  match month with
  | 2 => if isLeapYear year then 29 else 28
  | 4 | 6 | 9 | 11 => 30
  | _ => 31

/-- A date of the proleptic Gregorian calendar. -/
structure Date where
  year : Int
  month : Nat
  day : Nat
  year_range : -262143 ≤ year ∧ year ≤ 262142
  month_range : 1 ≤ month ∧ month ≤ 12
  day_range : 1 ≤ day ∧ day ≤ daysInMonth year month
deriving DecidableEq

namespace Date

/-- The date with the given parts, if there is one. -/
def ofParts? (year : Int) (month day : Nat) : Option Date :=
  if h : (-262143 ≤ year ∧ year ≤ 262142) ∧ (1 ≤ month ∧ month ≤ 12) ∧
      (1 ≤ day ∧ day ≤ daysInMonth year month) then
    some ⟨year, month, day, h.1, h.2.1, h.2.2⟩
  else none

/-- Dates are ordered by year, month and day. -/
instance : Ord Date where
  compare a b := ((compare a.year b.year).then (compare a.month b.month)).then (compare a.day b.day)

/-- The number of days from 1 January of year 0 to 1 January of a year. -/
def daysBeforeYear (year : Int) : Int :=
  365 * year + (year + 3) / 4 - (year + 99) / 100 + (year + 399) / 400

/-- The number of days of a year before a month. -/
def daysBeforeMonth (year : Int) (month : Nat) : Nat :=
  (List.range (month - 1)).foldl (fun days m => days + daysInMonth year (m + 1)) 0

/-- The number of days since 1 January of year 0. -/
def dayNumber (d : Date) : Int :=
  daysBeforeYear d.year + (daysBeforeMonth d.year d.month + (d.day - 1 : Nat) : Nat)

/-- The month and day that lie `days` days after the start of `month`. -/
def monthAndDay (year : Int) : Nat → Nat → Nat → Nat × Nat
  | 0, month, days => (month, days + 1)
  | later + 1, month, days =>
    if days < daysInMonth year month then (month, days + 1)
    else monthAndDay year later (month + 1) (days - daysInMonth year month)

/-- The date with the given number of days since 1 January of year 0, if there is one. -/
def ofDayNumber? (n : Int) : Option Date :=
  let cycle := n / 146097
  let rest := n % 146097
  let guess := cycle * 400 + rest / 366
  let year := if daysBeforeYear (guess + 1) ≤ n then guess + 1 else guess
  let (month, day) := monthAndDay year 11 1 (n - daysBeforeYear year).toNat
  ofParts? year month day

/-- The characters of a year: four digits, or a sign and at least four digits. -/
def yearChars (year : Int) : List Char :=
  if 0 ≤ year ∧ year ≤ 9999 then Text.paddedDigits 4 year.toNat
  else (if year < 0 then '-' else '+') :: Text.paddedDigits 4 year.natAbs

/-- The characters of a date: year, month and day, joined by hyphens. -/
def toChars (d : Date) : List Char :=
  yearChars d.year ++ '-' :: Text.paddedDigits 2 d.month ++ '-' :: Text.paddedDigits 2 d.day

/-- The text of a date: year, month and day, joined by hyphens. -/
def toText (d : Date) : String :=
  String.ofList d.toChars

end Date

namespace Calendar

/-- The number at the start of a text, after white space: at least one and, if `width` is given,
at most that many digits.  The second part is what follows the digits. -/
def number? (width : Option Nat) (cs : List Char) : Option (Nat × List Char) :=
  let body := Text.trimStart cs
  let digits := match width with
    | some w => (body.take w).takeWhile Text.isDigit
    | none => body.takeWhile Text.isDigit
  (Text.natural? digits).map fun n => (n, body.drop digits.length)

/-- The year at the start of a text: any number of digits after a sign, up to four without. -/
def year? (cs : List Char) : Option (Int × List Char) :=
  match Text.trimStart cs with
  | '-' :: rest => if rest.head?.any Text.isDigit then
      (number? none rest).map fun (n, rest) => (-(n : Int), rest)
    else none
  | '+' :: rest => if rest.head?.any Text.isDigit then
      (number? none rest).map fun (n, rest) => ((n : Int), rest)
    else none
  | body => (number? (some 4) body).map fun (n, rest) => ((n : Int), rest)

/-- What follows a character, after white space in front of it. -/
def expect? (c : Char) (cs : List Char) : Option (List Char) :=
  match Text.trimStart cs with
  | c' :: rest => if c' = c then some rest else none
  | [] => none

/-- The date at the start of a text, and what follows it. -/
def date? (cs : List Char) : Option (Date × List Char) := do
  let (year, rest) ← year? cs
  let (month, rest) ← number? (some 2) (← expect? '-' rest)
  let (day, rest) ← number? (some 2) (← expect? '-' rest)
  let date ← Date.ofParts? year month day
  return (date, rest)

end Calendar

/-- Reads a date; white space may stand in front of each part and at the end. -/
def Date.ofText? (s : String) : Option Date := do
  let (date, rest) ← Calendar.date? s.toList
  if Text.trimStart rest = [] then some date else none

end RecordGateway
