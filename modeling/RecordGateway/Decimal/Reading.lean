import RecordGateway.Decimal.Basic

/-!
# Reading decimals

A decimal is read digit by digit until the text ends or the next fractional digit does not fit
any more, either because there are twenty-eight places already or because the mantissa would
outgrow its 96 bits.  That digit rounds the number half up, and of what follows it only the form
counts: digits and group marks.  An integer part that does not fit is refused.

A text that cannot be read this way may still be in scientific notation, a decimal, the letter
`e` and an exponent.
-/

namespace RecordGateway.Decimal

/-- A number read so far: its digits and how many of them are places. -/
structure Digits where
  mantissa : Nat
  scale : Nat
deriving DecidableEq

/-- The digits rounded by the first digit that does not fit.  A mantissa that outgrows its bits
by rounding gives up one place, which a number without places cannot do. -/
def Digits.roundBy (ds : Digits) (d : Nat) : Option Digits :=
  if d < 5 then some ds
  else if ds.mantissa + 1 < mantissaBound then some { ds with mantissa := ds.mantissa + 1 }
  else if ds.scale = 0 then none
  else some ⟨(ds.mantissa + 1 + 4) / 10, ds.scale - 1⟩

/-- What may follow the digit that rounds a number. -/
def isIgnored (c : Char) : Bool :=
  Text.isDigit c || c == '_'

/-- Reads digits, at most one point and group marks.  `fraction` tells whether the point has
been read and `started` whether a digit has. -/
def readDigits (fraction started : Bool) (ds : Digits) : List Char → Option Digits
  | [] => if started then some ds else none
  | c :: rest =>
    match Text.digit? c with
    | some d =>
      let next : Digits := ⟨ds.mantissa * 10 + d, if fraction then ds.scale + 1 else ds.scale⟩
      if next.mantissa < mantissaBound ∧ next.scale ≤ maxScale then
        readDigits fraction true next rest
      else if fraction ∧ rest.all isIgnored then ds.roundBy d
      else none
    | none =>
      if c = '.' ∧ !fraction then readDigits true started ds rest
      else if c = '_' ∧ started then readDigits fraction started ds rest
      else none

/-- Reads a decimal in plain notation, with an optional sign. -/
def ofPlain? (cs : List Char) : Option Decimal :=
  let read (negative : Bool) (body : List Char) : Option Decimal := do
    let ds ← readDigits false false ⟨0, 0⟩ body
    ofParts? negative ds.mantissa ds.scale
  match cs with
  | '-' :: body => read true body
  | '+' :: body => read false body
  | body => read false body

/-- The quotient of a mantissa by `10 ^ places`, a half rounded up. -/
def dropPlaces (mantissa places : Nat) : Nat :=
  if places = 0 then mantissa else (mantissa + 5 * Nat.pow 10 (places - 1)) / Nat.pow 10 places

/-- The decimal times `10 ^ -e`: the scale grows by `e`, and what does not fit into
twenty-eight places is rounded away. -/
def shrink? (d : Decimal) (e : Nat) : Option Decimal :=
  if maxScale < e then none
  else if d.scale + e ≤ maxScale then ofParts? d.negative d.mantissa (d.scale + e)
  else ofParts? d.negative (dropPlaces d.mantissa (d.scale - (maxScale - e))) maxScale

/-- The decimal times `10 ^ e`: the scale shrinks by `e`, or the number loses its places and is
multiplied by the rest. -/
def grow? (d : Decimal) (e : Nat) : Option Decimal :=
  if e ≤ d.scale then ofParts? d.negative d.mantissa (d.scale - e)
  else if maxScale < e then none
  else ofParts? d.negative (d.mantissa * Nat.pow 10 (e - d.scale)) 0

/-- An exponent of scientific notation, which has to be below `2 ^ 32`. -/
def exponent? (cs : List Char) : Option Nat :=
  (Text.plusNatural? cs).filter (· < UInt32.size)

/-- Reads scientific notation: a plain decimal, `e` or `E`, and an exponent. -/
def ofScientific? (cs : List Char) : Option Decimal :=
  let isMark (c : Char) : Bool := c == 'e' || c == 'E'
  match cs.dropWhile (fun c => !isMark c) with
  | [] => none
  | _ :: exponent => do
    let base ← ofPlain? (cs.takeWhile fun c => !isMark c)
    match exponent with
    | '-' :: digits => base.shrink? (← exponent? digits)
    | digits => base.grow? (← exponent? digits)

/-- Reads a decimal in plain or, failing that, in scientific notation. -/
def ofChars? (cs : List Char) : Option Decimal :=
  (ofPlain? cs).orElse fun _ => ofScientific? cs

/-- Reads a decimal in plain or, failing that, in scientific notation. -/
def ofText? (s : String) : Option Decimal :=
  ofChars? s.toList

end RecordGateway.Decimal
