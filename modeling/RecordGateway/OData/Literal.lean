import RecordGateway.Calendar.Instant
import RecordGateway.OData.Number
import RecordGateway.Uuid

/-!
# Literals

The literals of filter expressions and how they are read.  The shape of a literal is settled
before its content is looked at: `2023-02-29` is a date literal with a wrong date, not something
else.  The readers therefore return, for a text of the right shape, either the literal or what is
wrong with it.
-/

namespace RecordGateway.OData

/-- What is wrong with a literal of the right shape. -/
inductive LiteralError where
  | date
  | time
  | offset
  | zone
  | codePoint
deriving DecidableEq

/-- The error as a sentence. -/
def LiteralError.message : LiteralError → String
  | date => "Error parsing a date."
  | time => "Error parsing a time."
  | offset => "Error parsing a time zone offset."
  | zone => "Error parsing a named time zone."
  | codePoint => "Error parsing a Unicode code point escape sequence."

/-- A literal of a filter expression. -/
inductive Literal where
  | null
  | bool (b : Bool)
  | number (n : NumberLiteral)
  | uuid (u : Uuid)
  | instant (i : Instant)
  | date (d : Date)
  /-- A time of day, in seconds and nanoseconds since midnight. -/
  | time (seconds nanoseconds : Nat)
  | string (s : String)
deriving DecidableEq

/-- A literal, or what is wrong with it. -/
abbrev LiteralReading := Except LiteralError Literal

namespace Literal

/-- Takes one given character. -/
def char? (c : Char) : List Char → Option (List Char)
  | c' :: rest => if c' = c then some rest else none
  | [] => none

/-- Takes exactly `n` characters of a class. -/
def exactly? (p : Char → Bool) (n : Nat) (cs : List Char) : Option (List Char × List Char) :=
  let taken := (cs.take n).takeWhile p
  if taken.length = n then some (taken, cs.drop n) else none

/-- Takes as many characters of a class as there are, at least one and at most `n`. -/
def upTo? (p : Char → Bool) (n : Nat) (cs : List Char) : Option (List Char × List Char) :=
  let taken := (cs.take n).takeWhile p
  if taken = [] then none else some (taken, cs.drop taken.length)

/-- Takes a word in any ASCII case. -/
def word? (word : List Char) (cs : List Char) : Option (List Char) :=
  if (cs.take word.length).map Char.toLower = word then some (cs.drop word.length) else none

/-! ### Strings -/

/-- The character that a letter after a backslash stands for. -/
def simpleEscape? : Char → Option Char
  | '\'' => some '\''
  | 'n' => some '\n'
  | 'r' => some '\r'
  | 't' => some '\t'
  | '\\' => some '\\'
  | _ => none

/-- The character of a code point, if it has one. -/
def codePoint? (digits : List Char) : Option Char := do
  let n ← Text.hexNatural? digits
  if h : n.isValidChar then some (Char.ofNatAux n h) else none

/-- Reads the characters of a string up to its closing quote.  A backslash that begins no escape
is an ordinary character; an escape of up to eight hexadecimal digits may denote no character,
which is reported as `none` in its place. -/
def quoted? (cs : List Char) : Option (List (Option Char) × List Char) :=
  match cs with
  | [] => none
  | '\'' :: rest => some ([], rest)
  | '\\' :: c :: rest =>
    let digits := (rest.take 8).takeWhile Text.isHexDigit
    if c = 'u' ∧ digits ≠ [] then
      (quoted? (rest.drop digits.length)).map fun (tail, after) =>
        (codePoint? digits :: tail, after)
    else match simpleEscape? c with
      | some e => (quoted? rest).map fun (tail, after) => (some e :: tail, after)
      | none => (quoted? (c :: rest)).map fun (tail, after) => (some '\\' :: tail, after)
  | c :: rest => (quoted? rest).map fun (tail, after) => (some c :: tail, after)
termination_by cs.length
decreasing_by all_goals (simp; try omega)

/-- Reads a string in single quotes. -/
def string? : List Char → Option (LiteralReading × List Char)
  | '\'' :: rest => (quoted? rest).map fun (characters, after) =>
    match characters.mapM id with
    | some cs => (.ok (.string (String.ofList cs)), after)
    | none => (.error .codePoint, after)
  | _ => none

/-! ### Dates and times -/

/-- Reads the shape of a date: four, two and two digits, joined by hyphens. -/
def date? (cs : List Char) : Option (Except LiteralError Date × List Char) := do
  let (year, rest) ← exactly? Text.isDigit 4 cs
  let (month, rest) ← exactly? Text.isDigit 2 (← char? '-' rest)
  let (day, rest) ← exactly? Text.isDigit 2 (← char? '-' rest)
  let date := do
    Date.ofParts? (← Text.natural? year) (← Text.natural? month) (← Text.natural? day)
  return (date.elim (.error .date) .ok, rest)

/-- The number of a string of digits, zero for the empty one. -/
def numberOf (digits : List Char) : Nat :=
  (Text.natural? digits).getD 0

/-- Reads the shape of a time: one or two digits of the hour, two of the minute, and then maybe
two of the second and a fraction.  A fraction without seconds does not count. -/
def time? (cs : List Char) : Option (Except LiteralError (Nat × Nat) × List Char) := do
  let (hour, rest) ← upTo? Text.isDigit 2 cs
  let (minute, rest) ← exactly? Text.isDigit 2 (← char? ':' rest)
  let (second, rest) := ((char? ':' rest).bind (exactly? Text.isDigit 2)).getD ([], rest)
  let (fraction, rest) := ((char? '.' rest).bind (upTo? Text.isDigit 9)).getD ([], rest)
  let nanoseconds := if second = [] then 0 else numberOf fraction * Nat.pow 10 (9 - fraction.length)
  let time :=
    if 23 < numberOf hour ∨ 59 < numberOf minute ∨ 60 < numberOf second then .error .time
    else .ok (numberOf hour * 3600 + numberOf minute * 60 + numberOf second, nanoseconds)
  return (time, rest)

/-- Reads an offset from UTC: `Z`, or a sign, two digits of hours and two of minutes. -/
def offset? (cs : List Char) : Option (Except LiteralError Int × List Char) :=
  let signed (sign : Int) (cs : List Char) : Option (Except LiteralError Int × List Char) := do
    let (hours, rest) ← exactly? Text.isDigit 2 cs
    let rest' := (char? ':' rest).getD rest
    let (minutes, rest) := (exactly? Text.isDigit 2 rest').getD ([], rest)
    if 23 < numberOf hours ∨ 59 < numberOf minutes then some (.error .offset, rest)
    else some (.ok (sign * (numberOf hours * 3600 + numberOf minutes * 60 : Nat)), rest)
  match cs with
  | 'Z' :: rest => some (.ok 0, rest)
  | '+' :: rest => signed 1 rest
  | '-' :: rest => signed (-1) rest
  | _ => none

/-- A character that the name of a time zone may start with. -/
def isZoneStart (c : Char) : Bool :=
  c.isAlpha || c == '-' || c == '_' || c == '/' || c == '+'

/-- The names of time zones that never differ from UTC. -/
def utcNames : List String :=
  ["UTC", "GMT", "UCT", "Universal", "Greenwich", "GMT0", "GMT+0", "GMT-0", "Etc/UTC", "Etc/GMT",
    "Etc/UCT", "Etc/Universal", "Etc/Zulu", "Etc/Greenwich", "Etc/GMT0", "Etc/GMT+0", "Etc/GMT-0"]

/-- The offset of a time zone with a fixed one; `Etc/GMT+5` lies five hours behind UTC. -/
def zoneOffset? (name : String) : Option Int :=
  if utcNames.contains name then some 0
  else match name.toList with
    | 'E' :: 't' :: 'c' :: '/' :: 'G' :: 'M' :: 'T' :: sign :: hours =>
      match hours with
      | '0' :: _ => none
      | _ => do
        let h ← Text.natural? hours
        if sign = '+' ∧ h ≤ 12 then some (-(h * 3600 : Nat))
        else if sign = '-' ∧ h ≤ 14 then some (h * 3600 : Nat)
        else none
    | _ => none

/-- Reads the name of a time zone, at least two characters. -/
def zone? : List Char → Option (Except LiteralError Int × List Char)
  | c :: rest =>
    let tail := rest.takeWhile fun c => isZoneStart c || Text.isDigit c
    if isZoneStart c && tail ≠ [] then
      some ((zoneOffset? (String.ofList (c :: tail))).elim (.error .zone) .ok,
        rest.drop tail.length)
    else none
  | [] => none

/-- Reads date and time, joined by `T`, with an offset or a time zone. -/
def instant? (cs : List Char) : Option (LiteralReading × List Char) := do
  let (day, rest) ← date? cs
  let (clock, rest) ← time? (← char? 'T' rest)
  let (ahead, rest) ← (offset? rest).orElse fun _ => zone? rest
  let literal : LiteralReading := do
    let day ← day
    let (seconds, nanoseconds) ← clock
    let ahead ← ahead
    match Instant.ofLocal? day seconds nanoseconds ahead with
    | some i => .ok (.instant i)
    | none => .error .date
  return (literal, rest)

/-! ### Other literals -/

/-- Reads an identifier in hyphenated form. -/
def uuid? (cs : List Char) : Option (LiteralReading × List Char) :=
  (Uuid.ofHyphenated? (cs.take 36)).map fun u => (.ok (.uuid u), cs.drop 36)

/-- Reads a number: digits, and maybe a point with more digits. -/
def number? (cs : List Char) : Option (LiteralReading × List Char) :=
  let whole := cs.takeWhile Text.isDigit
  let (fraction, rest) := match cs.dropWhile Text.isDigit with
    | '.' :: rest => (rest.takeWhile Text.isDigit, rest.dropWhile Text.isDigit)
    | rest => ([], rest)
  if whole = [] then none
  else (NumberLiteral.ofDigits? whole fraction).map fun n => (.ok (.number n), rest)

/-- Reads a truth value or null in any case; nothing has to set it off from what follows. -/
def constant? (cs : List Char) : Option (LiteralReading × List Char) :=
  match word? "true".toList cs with
  | some rest => some (.ok (.bool true), rest)
  | none => match word? "false".toList cs with
    | some rest => some (.ok (.bool false), rest)
    | none => (word? "null".toList cs).map fun rest => (.ok .null, rest)

/-- Reads a literal: of the shapes that fit, the first in the order string, instant, date, time,
identifier, number, constant. -/
def read? (cs : List Char) : Option (LiteralReading × List Char) :=
  let day? := (date? cs).map fun (d, rest) => (d.map Literal.date, rest)
  let clock? := (time? cs).map fun (t, rest) => (t.map fun (s, n) => Literal.time s n, rest)
  string? cs <|> instant? cs <|> day? <|> clock? <|> uuid? cs <|> number? cs <|> constant? cs

end Literal

end RecordGateway.OData
