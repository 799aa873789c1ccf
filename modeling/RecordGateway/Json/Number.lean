import RecordGateway.Decimal.Shortest
import RecordGateway.Json.Basic
import RecordGateway.Word

/-!
# Numbers of JSON

A JSON number denotes a decimal in two ways: an integer that fits into 64 bits denotes itself,
and any other number is read as a binary floating point number and denotes the shortest decimal
that reads back as that number.

The binary number is found in steps, each of which rounds: the digits are gathered as long as
they fit into 64 bits, their number is rounded, and the result is multiplied or divided by the
rounded power of ten.  It is therefore not always the one nearest to the number as written.
-/

namespace RecordGateway.Json

open Decimal.Shortest (Binary)

/-- Digits read on top of a number as long as it fits into 64 bits, and the digits left. -/
def gatherDigits (n : Nat) : List Char → Nat × List Char
  | [] => (n, [])
  | c :: rest =>
    match Text.digit? c with
    | some d =>
      if n * 10 + d < UInt64.size then gatherDigits (n * 10 + d) rest else (n, c :: rest)
    | none => (n, c :: rest)

/-- The largest power of ten that is a binary floating point number. -/
def maxPower : Nat := 308

/-- The binary number nearest to a power of ten. -/
def powerOfTen? (k : Nat) : Option Binary :=
  Binary.ofRatio? ⟨Nat.pow 10 k, 1⟩

/-- A binary number divided by `10 ^ k`; `none` when it becomes zero.  Powers that are no binary
numbers are divided by piece by piece. -/
def dividePower? (b : Binary) (k : Nat) : Option Binary := do
  if k ≤ maxPower then b.divide? (← powerOfTen? k)
  else dividePower? (← b.divide? (← powerOfTen? maxPower)) (k - maxPower)
termination_by k
decreasing_by simp only [maxPower] at *; omega

/-- The decimal of the number `n * 10 ^ k`. -/
def decimalOfScaled? (negative : Bool) (n : Nat) (k : Int) : Option Decimal :=
  match Binary.ofRatio? ⟨n, 1⟩ with
  | none => Decimal.Shortest.decimal? negative none
  | some b => match k with
    | .negSucc j => Decimal.Shortest.decimal? negative (dividePower? b (j + 1))
    | .ofNat j => do
      if maxPower < j then none
      else
        let product ← b.times? (← powerOfTen? j)
        if product.overflows then none else Decimal.Shortest.decimal? negative (some product)

/-- The decimal of the number with the digits `whole` and `fraction` times `10 ^ exponent`. -/
def decimalOfParts? (negative : Bool) (whole fraction : List Char) (exponent : Int) :
    Option Decimal :=
  let (n, wholeLeft) := gatherDigits 0 whole
  let (n, fractionLeft) := gatherDigits n fraction
  decimalOfScaled? negative n
    (exponent + wholeLeft.length - (fraction.length - fractionLeft.length : Nat))

/-- The decimal that a JSON number denotes. -/
def decimalOfNumber? (text : String) : Option Decimal :=
  match (number text).asInt? with
  | some n => if isWord n then Decimal.ofParts? (n < 0) n.natAbs 0
      else decimalOfParts? (n < 0) (Text.decimalDigits n.natAbs) [] 0
  | none =>
    let (negative, body) := match text.toList with
      | '-' :: rest => (true, rest)
      | cs => (false, cs)
    let whole := body.takeWhile Text.isDigit
    let (fraction, rest) := match body.dropWhile Text.isDigit with
      | '.' :: rest => (rest.takeWhile Text.isDigit, rest.dropWhile Text.isDigit)
      | rest => ([], rest)
    match rest with
    | [] => decimalOfParts? negative whole fraction 0
    | _ :: exponent => do decimalOfParts? negative whole fraction (← Text.integer? exponent)

end RecordGateway.Json
