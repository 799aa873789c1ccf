import RecordGateway.Calendar.Instant
import RecordGateway.Decimal.Basic
import RecordGateway.Uuid

/-!
# Values

What an attribute of a record can hold.  Two values compare when both are of one type, or when
both are numbers: integers and decimals mix freely.  Strings compare by code points.  Null
compares with nothing.
-/

namespace RecordGateway

/-- The content of an attribute. -/
inductive Value where
  | null
  | bool (b : Bool)
  | int (i : Int64)
  | decimal (d : Decimal)
  | string (s : String)
  | uuid (u : Uuid)
  | date (d : Date)
  | instant (i : Instant)
deriving DecidableEq

namespace Value

instance : Inhabited Value := ⟨null⟩

/-- Whether the value is null. -/
def isNull : Value → Bool
  | null => true
  | _ => false

/-- The string a value holds. -/
def asString? : Value → Option String
  | string s => some s
  | _ => none

/-- The integer a value holds. -/
def asInt? : Value → Option Int64
  | int i => some i
  | _ => none

/-- The number a value holds, an integer widened to a decimal. -/
def asDecimal? : Value → Option Decimal
  | int i => some (Decimal.ofInt64 i)
  | decimal d => some d
  | _ => none

/-- The truth value a value holds. -/
def asBool? : Value → Option Bool
  | bool b => some b
  | _ => none

/-- The identifier a value holds. -/
def asUuid? : Value → Option Uuid
  | uuid u => some u
  | _ => none

/-- The order of two values, if they compare at all. -/
def compare? : Value → Value → Option Ordering
  | string a, string b => some (compare a b)
  | bool a, bool b => some (compare a b)
  | uuid a, uuid b => some (compare a b)
  | date a, date b => some (compare a b)
  | instant a, instant b => some (compare a b)
  | a, b => match a.asDecimal?, b.asDecimal? with
    | some x, some y => some (compare x y)
    | _, _ => none

/-- The text of a value for a reader: strings in single quotes, instants with the offset
`+00:00`. -/
def display : Value → String
  | null => "null"
  | bool true => "true"
  | bool false => "false"
  | int i => toString i.toInt
  | decimal d => d.toText
  | string s => "'" ++ s ++ "'"
  | uuid u => u.toText
  | date d => d.toText
  | instant i => i.toOffsetText

end Value

end RecordGateway
