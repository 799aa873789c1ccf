import RecordGateway.Text.Blank
import RecordGateway.Text.Digits

/-!
# Record identifiers

A record identifier is a 128-bit number.  Its canonical text is the hyphenated lower-case form;
three further spellings are read: thirty-two plain digits, the hyphenated form in braces, and
the hyphenated form after `urn:uuid:`.  Digits are read in either case.
-/

namespace RecordGateway

/-- A 128-bit record identifier. -/
structure Uuid where
  /-- The identifier as a number, most significant octet first. -/
  value : Nat
  value_lt : value < 0x100000000000000000000000000000000
deriving DecidableEq

namespace Uuid

/-- The identifier with all bits zero. -/
def nil : Uuid where
  value := 0
  value_lt := by decide

/-- The identifier whose number is the lowest 128 bits of `n`. -/
def ofNat (n : Nat) : Uuid where
  value := n % 0x100000000000000000000000000000000
  value_lt := Nat.mod_lt _ (by decide)

instance : Inhabited Uuid := ⟨nil⟩

/-- Identifiers are ordered by their octets, which is the order of their numbers. -/
instance : Ord Uuid where
  compare a b := compare a.value b.value

/-- Hexadecimal digits with hyphens after the eighth, twelfth, sixteenth and twentieth. -/
def hyphenate (digits : List Char) : List Char :=
  digits.take 8 ++ '-' :: (digits.drop 8).take 4 ++ '-' :: (digits.drop 12).take 4 ++
    '-' :: (digits.drop 16).take 4 ++ '-' :: digits.drop 20

/-- The characters of the canonical text. -/
def toChars (u : Uuid) : List Char :=
  hyphenate (Text.hexDigits 32 u.value)

/-- The canonical text: lower-case and hyphenated. -/
def toText (u : Uuid) : String :=
  String.ofList u.toChars

/-- Reads exactly thirty-two hexadecimal digits. -/
def ofDigits? (cs : List Char) : Option Uuid :=
  if cs.length = 32 then (Text.hexNatural? cs).map ofNat else none

/-- Reads the hyphenated form: groups of eight, four, four, four and twelve digits. -/
def ofHyphenated? (cs : List Char) : Option Uuid :=
  match Text.split (· == '-') cs with
  | [a, b, c, d, e] =>
    if a.length = 8 ∧ b.length = 4 ∧ c.length = 4 ∧ d.length = 4 ∧ e.length = 12 then
      ofDigits? (a ++ b ++ c ++ d ++ e)
    else none
  | _ => none

/-- Reads any of the accepted spellings. -/
def ofChars? : List Char → Option Uuid
  | 'u' :: 'r' :: 'n' :: ':' :: 'u' :: 'u' :: 'i' :: 'd' :: ':' :: rest => ofHyphenated? rest
  | '{' :: rest =>
    if rest.getLast? = some '}' then ofHyphenated? rest.dropLast else none
  | cs => if cs.length = 32 then ofDigits? cs else ofHyphenated? cs

/-- Reads any of the accepted spellings. -/
def ofText? (s : String) : Option Uuid :=
  ofChars? s.toList

end Uuid

end RecordGateway
