import RecordGateway.Calendar.Date

/-!
# Instants

A point in time, counted in nanoseconds from the start of year 0 in UTC.  It is written as date
and time in UTC with as many places of a second as it needs (none, three, six or nine), and read
from a date and time at any offset from UTC.
-/

namespace RecordGateway

/-- A point in time, as the nanoseconds since the start of year 0 in UTC. -/
structure Instant where
  nanoseconds : Int
deriving DecidableEq

namespace Instant

/-- The nanoseconds of a second. -/
def perSecond : Int := 1000000000

/-- The nanoseconds of a day. -/
def perDay : Int := 86400 * perSecond

/-- Instants are ordered by time. -/
instance : Ord Instant where
  compare a b := compare a.nanoseconds b.nanoseconds

/-- The first day that has instants, and the day after the last one. -/
def inRange (i : Instant) : Bool :=
  (Date.ofDayNumber? (i.nanoseconds / perDay)).isSome

/-- The instant at a date and a time of that day, given in seconds and nanoseconds, where clocks
are `offset` seconds ahead of UTC. -/
def ofLocal? (date : Date) (seconds nanoseconds : Nat) (offset : Int) : Option Instant :=
  let i : Instant :=
    ⟨date.dayNumber * perDay + ((seconds : Int) - offset) * perSecond + (nanoseconds : Int)⟩
  if i.inRange then some i else none

/-- The characters of a fraction of a second: none, three, six or nine places. -/
def fractionChars (nanoseconds : Nat) : List Char :=
  if nanoseconds = 0 then []
  else if nanoseconds % 1000000 = 0 then '.' :: Text.paddedDigits 3 (nanoseconds / 1000000)
  else if nanoseconds % 1000 = 0 then '.' :: Text.paddedDigits 6 (nanoseconds / 1000)
  else '.' :: Text.paddedDigits 9 nanoseconds

/-- The characters of date and time in UTC, without a mark of the time zone. -/
def localChars (i : Instant) : List Char :=
  let date := match Date.ofDayNumber? (i.nanoseconds / perDay) with
    | some d => d.toChars
    | none => []
  let time := (i.nanoseconds % perDay).toNat
  let seconds := time / 1000000000
  date ++ 'T' :: Text.paddedDigits 2 (seconds / 3600) ++
    ':' :: Text.paddedDigits 2 (seconds / 60 % 60) ++
    ':' :: Text.paddedDigits 2 (seconds % 60) ++ fractionChars (time % 1000000000)

/-- The text of an instant in UTC, marked with `Z`. -/
def toText (i : Instant) : String :=
  String.ofList (i.localChars ++ ['Z'])

/-- The text of an instant in UTC, marked with the offset `+00:00`. -/
def toOffsetText (i : Instant) : String :=
  String.ofList (i.localChars ++ "+00:00".toList)

end Instant

namespace Calendar

/-- The fraction at the start of a text, in nanoseconds: a point and digits, of which nine
count.  A text without a point has the fraction zero. -/
def fraction? : List Char → Option (Nat × List Char)
  | '.' :: rest =>
    let digits := rest.takeWhile Text.isDigit
    let counted := digits.take 9
    (Text.natural? counted).map fun n =>
      (n * Nat.pow 10 (9 - counted.length), rest.drop digits.length)
  | cs => some (0, cs)

/-- The number of exactly two digits at the start of a text. -/
def twoDigits? : List Char → Option (Nat × List Char)
  | a :: b :: rest => do
    let n ← Text.natural? [a, b]
    return (n, rest)
  | _ => none

/-- The offset from UTC at the start of a text, in seconds: `Z`, `UTC`, or a sign, hours and
minutes with colons or white space between them. -/
def offset? (cs : List Char) : Option (Int × List Char) :=
  let signed (negative : Bool) (rest : List Char) : Option (Int × List Char) := do
    let (hours, rest) ← twoDigits? rest
    let (minutes, rest) ← twoDigits? (rest.dropWhile fun c => c == ':' || Text.isBlank c)
    let seconds : Int := hours * 3600 + minutes * 60
    if minutes < 60 ∧ seconds < 86400 then
      some (if negative then -seconds else seconds, rest)
    else none
  match cs with
  | 'Z' :: rest | 'z' :: rest => some (0, rest)
  | '+' :: rest => signed false rest
  | '-' :: rest | '−' :: rest => signed true rest
  | u :: t :: c :: rest =>
    if u.toLower = 'u' ∧ t.toLower = 't' ∧ c.toLower = 'c' then some (0, rest) else none
  | _ => none

/-- The instant that a date, a `T` or one blank, a time and an offset denote; white space may
stand in front of each part and at the end. -/
def instant? (cs : List Char) : Option Instant := do
  let (date, rest) ← date? cs
  let rest ← match rest with
    | 'T' :: rest | 't' :: rest | ' ' :: rest => some rest
    | _ => none
  let (hour, rest) ← number? (some 2) rest
  let (minute, rest) ← number? (some 2) (← expect? ':' rest)
  let (second, rest) ← number? (some 2) (← expect? ':' rest)
  let (nanoseconds, rest) ← fraction? rest
  let (offset, rest) ← offset? (Text.trimStart rest)
  if hour < 24 ∧ minute < 60 ∧ second ≤ 60 ∧ Text.trimStart rest = [] then
    Instant.ofLocal? date (hour * 3600 + minute * 60 + second) nanoseconds offset
  else none

end Calendar

/-- Reads date and time at an offset from UTC. -/
def Instant.ofText? (s : String) : Option Instant :=
  Calendar.instant? s.toList

end RecordGateway
