/-!
# Machine words

The integers that fit into 64 bits.
-/

namespace RecordGateway

/-- The 64-bit integer of a number, if it fits. -/
def int64? (n : Int) : Option Int64 :=
  if -9223372036854775808 ≤ n ∧ n ≤ 9223372036854775807 then some (.ofInt n) else none

/-- Whether a number fits into 64 bits with or without a sign. -/
def isWord (n : Int) : Bool :=
  -9223372036854775808 ≤ n && n ≤ 18446744073709551615

end RecordGateway
