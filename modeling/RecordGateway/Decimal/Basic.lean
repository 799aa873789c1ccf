import RecordGateway.Text.Digits

/-!
# Fixed-point decimals

A decimal is a signed number `± mantissa / 10 ^ scale` with a 96-bit mantissa and at most
twenty-eight places.  The scale is part of the value as it is written (`1.50` keeps its zero),
but not of its order: decimals are compared as numbers.  Zero has no sign.
-/

namespace RecordGateway

/-- A decimal number with a 96-bit mantissa and at most twenty-eight places. -/
structure Decimal where
  /-- Whether the number lies below zero. -/
  negative : Bool
  /-- The digits without the point. -/
  mantissa : Nat
  /-- The number of places after the point. -/
  scale : Nat
  mantissa_lt : mantissa < 0x1000000000000000000000000
  scale_le : scale ≤ 28
  zero_positive : mantissa = 0 → negative = false
deriving DecidableEq

namespace Decimal

/-- The largest number of places. -/
def maxScale : Nat := 28

/-- The first mantissa that does not fit. -/
def mantissaBound : Nat := 0x1000000000000000000000000

/-- The decimal with the given parts, if they are in range; zero loses its sign. -/
def ofParts? (negative : Bool) (mantissa scale : Nat) : Option Decimal :=
  if h : mantissa < 0x1000000000000000000000000 ∧ scale ≤ 28 then
    some {
      negative := negative && mantissa != 0
      mantissa
      scale
      mantissa_lt := h.1
      scale_le := h.2
      zero_positive := by intro h0; simp [h0] }
  else none

/-- The mantissa with its sign. -/
def signed (d : Decimal) : Int :=
  if d.negative then -(d.mantissa : Int) else d.mantissa

/-- The decimal of a 64-bit integer, without places. -/
def ofInt64 (i : Int64) : Decimal where
  negative := decide (i.toInt < 0)
  mantissa := i.toInt.natAbs
  scale := 0
  mantissa_lt := by
    have h₁ := i.le_toInt
    have h₂ := i.toInt_lt
    omega
  scale_le := by decide
  zero_positive := by
    intro h
    simp only [decide_eq_false_iff_not]
    omega

instance : Inhabited Decimal := ⟨ofInt64 0⟩

/-- Decimals are ordered as numbers: both are brought to the common denominator
`10 ^ (a.scale + b.scale)`. -/
instance : Ord Decimal where
  compare a b := compare (a.signed * Nat.pow 10 b.scale) (b.signed * Nat.pow 10 a.scale)

/-- The characters of a number with `scale` places: its digits, with zeros in front so that one
digit precedes the point. -/
def placed (scale : Nat) (n : Nat) : List Char :=
  if scale = 0 then Text.decimalDigits n
  else
    let digits := Text.paddedDigits (scale + 1) n
    digits.take (digits.length - scale) ++ '.' :: digits.drop (digits.length - scale)

/-- The characters of a decimal: sign, digits and all places. -/
def toChars (d : Decimal) : List Char :=
  (if d.negative then ['-'] else []) ++ placed d.scale d.mantissa

/-- The text of a decimal: sign, digits and all places. -/
def toText (d : Decimal) : String :=
  String.ofList d.toChars

end Decimal

end RecordGateway
