import RecordGateway.Decimal.Reading
import RecordGateway.Value
import RecordGateway.Word

/-!
# Number literals

An unsigned number literal has digits and places.  Its own text drops leading zeros, writes zero
without places, and switches to an exponent when more than five zeros stand between the point and
the first digit that counts.  That text is what decides about its value: an integer if it reads as
one of 64 bits, a decimal otherwise, in plain or in scientific notation.
-/

namespace RecordGateway.OData

/-- The unsigned number `digits / 10 ^ places`. -/
structure NumberLiteral where
  digits : Nat
  places : Nat
deriving DecidableEq

namespace NumberLiteral

/-- The literal with the given digits in front of the point and behind it. -/
def ofDigits? (whole fraction : List Char) : Option NumberLiteral :=
  (Text.natural? (whole ++ fraction)).map fun n => ⟨n, fraction.length⟩

/-- The most zeros between the point and the first digit that are written out. -/
def maxLeadingZeros : Nat := 5

/-- The digits with a point behind the first one, unless it is the only one. -/
def pointed : List Char → List Char
  | c :: d :: rest => c :: '.' :: d :: rest
  | cs => cs

/-- The characters of a number literal. -/
def toChars (n : NumberLiteral) : List Char :=
  let digits := Text.decimalDigits n.digits
  if n.digits = 0 then ['0']
  else if maxLeadingZeros < n.places - digits.length then
    pointed digits ++ 'E' :: '-' :: Text.decimalDigits (n.places + 1 - digits.length)
  else Decimal.placed n.places n.digits

/-- The text of a number literal. -/
def toText (n : NumberLiteral) : String :=
  String.ofList n.toChars

/-- The 64-bit integer that a text denotes. -/
def int64? (cs : List Char) : Option Int64 :=
  (Text.integer? cs).bind RecordGateway.int64?

/-- The value of a number literal, if there is one. -/
def toValue? (n : NumberLiteral) : Option Value :=
  match int64? n.toChars with
  | some i => some (.int i)
  | none => (Decimal.ofChars? n.toChars).map .decimal

end NumberLiteral

end RecordGateway.OData
