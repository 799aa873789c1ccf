import RecordGateway.Text.CharSet

/-!
# Labels in ASCII

A label with characters outside ASCII is written as its ASCII characters and, after a hyphen, the
places of the others.  The others are taken in the order of their numbers; each place is the number
of steps from the one before, counting through all places of all characters in between, and is
written in digits of changing weight, the lowest first.
-/

namespace RecordGateway.Url.Domain.Punycode

open Text (isAscii)

/-- The number of different digits. -/
def base : Nat := 36

/-- The number of the first character outside ASCII. -/
def firstNumber : Nat := 128

/-- The bias at the start of a label. -/
def firstBias : Nat := 72

/-- The digit of a number below the base: a small letter or, from 26 on, a decimal digit. -/
def digitChar (d : Nat) : Char :=
  if d < 26 then .ofNat ('a'.toNat + d) else .ofNat ('0'.toNat + (d - 26))

/-- The number of a digit. -/
def digitValue? (c : Char) : Option Nat :=
  if 'a' ≤ c ∧ c ≤ 'z' then some (c.toNat - 'a'.toNat)
  else (Text.digit? c).map (· + 26)

/-- The bound below which the digit at position `k` is the last one. -/
def threshold (k bias : Nat) : Nat :=
  max 1 (min 26 (k - bias))

/-- The bound is at least one, so that what is left of a number of steps gets smaller. -/
theorem threshold_pos (k bias : Nat) : 1 ≤ threshold k bias :=
  Nat.le_max_left 1 _

/-- The bias that a number of steps leads to, after it has been brought down to what matters;
`k` counts the positions that it has been brought down by. -/
def scaledBias (steps k : Nat) : Nat :=
  if 455 < steps then scaledBias (steps / 35) (k + base) else k + base * steps / (steps + 38)
termination_by steps
decreasing_by exact Nat.div_lt_self (by omega) (by omega)

/-- The bias after a number of steps to the place of one of `count` characters. -/
def nextBias (steps count : Nat) (first : Bool) : Nat :=
  let steps := if first then steps / 700 else steps / 2
  scaledBias (steps + steps / count) 0

/-- The digits of a number of steps, from position `k` on. -/
def digits (bias k n : Nat) : List Char :=
  let t := threshold k bias
  if n < t then [digitChar n]
  else digitChar (t + (n - t) % (base - t)) :: digits bias (k + base) ((n - t) / (base - t))
termination_by n
decreasing_by
  have := threshold_pos k bias
  exact Nat.lt_of_le_of_lt (Nat.div_le_self _ _) (by omega)

/-- What is known while a label is written. -/
structure Progress where
  /-- The steps since the last character that was written. -/
  steps : Nat
  bias : Nat
  /-- The number of characters that have been written. -/
  count : Nat
  written : List Char

/-- Passes a character of the label while the places of the character `n` are written; `basic` is
the number of ASCII characters. -/
def Progress.pass (basic n : Nat) (p : Progress) (c : Char) : Progress :=
  if c.toNat < n then { p with steps := p.steps + 1 }
  else if c.toNat = n then {
    steps := 0
    bias := nextBias p.steps (p.count + 1) (p.count == basic)
    count := p.count + 1
    written := p.written ++ digits p.bias base p.steps }
  else p

/-- The places of the characters with the numbers `todo`, in ascending order from `n` on. -/
def writePlaces (label : List Char) (basic : Nat) : Nat → List Nat → Progress → List Char
  | _, [], p => p.written
  | n, m :: todo, p =>
    let p := { p with steps := p.steps + (m - n) * (p.count + 1) }
    let p := label.foldl (Progress.pass basic m) p
    writePlaces label basic (m + 1) todo { p with steps := p.steps + 1 }

/-- The form of a label in ASCII. -/
def encode (label : List Char) : List Char :=
  let basic := label.filter isAscii
  let others := ((label.filter fun c => !isAscii c).map Char.toNat).mergeSort.eraseDups
  basic ++ (if basic = [] then [] else ['-']) ++
    writePlaces label basic.length firstNumber others ⟨0, firstBias, basic.length, []⟩

/-- Reads the digits of a number of steps, each with the weight `weight`, on top of `n`. -/
def readDigits? (bias k weight n : Nat) : List Char → Option (Nat × List Char)
  | [] => none
  | c :: rest => do
    let d ← digitValue? c
    let t := threshold k bias
    if d < t then some (n + d * weight, rest)
    else readDigits? bias (k + base) (weight * (base - t)) (n + d * weight) rest

/-- Puts characters into a label, as the digits tell; `place` is the place behind the last one and
`n` its number.  Every character takes at least one digit, which bounds their number. -/
def readPlaces? : Nat → (n place bias : Nat) → List Char → List Char → Option (List Char)
  | _, _, _, _, label, [] => some label
  | 0, _, _, _, _, _ :: _ => none
  | fuel + 1, n, place, bias, label, cs => do
    let (reached, rest) ← readDigits? bias base 1 place cs
    let count := label.length + 1
    let n := n + reached / count
    let here := reached % count
    if n.isValidChar then
      readPlaces? fuel n (here + 1) (nextBias (reached - place) count (place == 0))
        (label.take here ++ .ofNat n :: label.drop here) rest
    else none

/-- The label whose form in ASCII is given, in small letters. -/
def decode? (form : List Char) : Option (List Char) :=
  let basic := ((form.reverse.dropWhile (· != '-')).drop 1).reverse
  let places := if basic = [] then form else form.drop (basic.length + 1)
  readPlaces? form.length firstNumber 0 firstBias basic places

end RecordGateway.Url.Domain.Punycode
