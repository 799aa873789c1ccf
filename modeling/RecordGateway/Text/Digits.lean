/-!
# Digits

Reading and writing natural numbers in base ten and sixteen over lists of characters.  Digits
are the ASCII ones; a hexadecimal digit is read in either case and written in lower case.
-/

namespace RecordGateway.Text

/-- The value of an ASCII decimal digit. -/
def digit? (c : Char) : Option Nat :=
  if '0' ≤ c ∧ c ≤ '9' then some (c.toNat - '0'.toNat) else none

/-- The value of an ASCII hexadecimal digit of either case. -/
def hexDigit? (c : Char) : Option Nat :=
  if '0' ≤ c ∧ c ≤ '9' then some (c.toNat - '0'.toNat)
  else if 'a' ≤ c ∧ c ≤ 'f' then some (c.toNat - 'a'.toNat + 10)
  else if 'A' ≤ c ∧ c ≤ 'F' then some (c.toNat - 'A'.toNat + 10)
  else none

/-- The hexadecimal digit of a number below sixteen, in lower case. -/
def hexChar (n : Nat) : Char :=
  if n < 10 then Char.ofNat ('0'.toNat + n) else Char.ofNat ('a'.toNat + (n - 10))

/-- An ASCII decimal digit. -/
def isDigit (c : Char) : Bool :=
  '0' ≤ c ∧ c ≤ '9'

/-- An ASCII hexadecimal digit. -/
def isHexDigit (c : Char) : Bool :=
  (hexDigit? c).isSome

/-- The value of a string of digits, most significant first, on top of the value `n` read so
far; `none` if a character is no digit of the base. -/
def valueFrom (read : Char → Option Nat) (base : Nat) : Nat → List Char → Option Nat
  | n, [] => some n
  | n, c :: rest => do
    let d ← read c
    valueFrom read base (n * base + d) rest

/-- The number that a non-empty string of decimal digits stands for. -/
def natural? (cs : List Char) : Option Nat :=
  if cs = [] then none else valueFrom digit? 10 0 cs

/-- The number that a non-empty string of hexadecimal digits stands for. -/
def hexNatural? (cs : List Char) : Option Nat :=
  if cs = [] then none else valueFrom hexDigit? 16 0 cs

/-- The number that decimal digits with an optional leading plus sign stand for. -/
def plusNatural? : List Char → Option Nat
  | '+' :: rest => natural? rest
  | cs => natural? cs

/-- The number that decimal digits with an optional leading sign stand for. -/
def integer? : List Char → Option Int
  | '-' :: rest => (natural? rest).map fun n => -(n : Int)
  | cs => (plusNatural? cs).map Int.ofNat

/-- The decimal digits of a number, without leading zeros. -/
def decimalDigits (n : Nat) : List Char :=
  Nat.toDigits 10 n

/-- The lowest `width` hexadecimal digits of a number. -/
def hexDigits : Nat → Nat → List Char
  | 0, _ => []
  | width + 1, n => hexDigits width (n / 16) ++ [hexChar (n % 16)]

/-- A string of characters brought to at least `width` characters by zeros in front. -/
def padZeros (width : Nat) (cs : List Char) : List Char :=
  List.replicate (width - cs.length) '0' ++ cs

/-- The decimal digits of a number, with zeros in front to at least `width` digits. -/
def paddedDigits (width n : Nat) : List Char :=
  padZeros width (decimalDigits n)

end RecordGateway.Text
