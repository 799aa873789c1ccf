import RecordGateway.Json.Number
import RecordGateway.Value
import RecordGateway.Word

/-!
# Values as JSON

A value travels as an object with its type and, unless it is null, its content; the pair may also
be an array.  Decimals, identifiers, dates and instants are strings; a decimal may also be read
from a number.
-/

namespace RecordGateway.Value

/-- The name of the type of a value. -/
def typeName : Value → String
  | null => "null"
  | bool _ => "bool"
  | int _ => "int"
  | decimal _ => "decimal"
  | string _ => "string"
  | uuid _ => "uuid"
  | date _ => "date"
  | instant _ => "date_time"

/-- The content of a value that is not null. -/
def content? : Value → Option Json
  | null => none
  | bool b => some (.bool b)
  | int i => some (.ofInt i.toInt)
  | decimal d => some (.string d.toText)
  | string s => some (.string s)
  | uuid u => some (.string u.toText)
  | date d => some (.string d.toText)
  | instant i => some (.string i.toText)

/-- A value as JSON. -/
def toJson (v : Value) : Json :=
  .object (("type", .string v.typeName) :: v.content?.toList.map fun c => ("value", c))

/-- The 64-bit integer of a number, if it is one and fits. -/
def int64OfJson? (j : Json) : Option Int64 := do
  int64? (← j.asInt?)

/-- An optional 64-bit integer as JSON. -/
def optionalInt64Json (n : Option Int64) : Json :=
  .ofOption (fun n => .ofInt n.toInt) n

/-- The decimal of a string or a number. -/
def decimalOfJson? : Json → Option Decimal
  | .string s => Decimal.ofText? s
  | .number text => Json.decimalOfNumber? text
  | _ => none

/-- The value of a type name and a content; only null can do without a content. -/
def ofTyped? (type : String) (content : Option Json) : Option Value :=
  match type with
  | "null" => if content.all Json.isNull then some null else none
  | "bool" => do return .bool (← (← content).asBool?)
  | "int" => do return .int (← int64OfJson? (← content))
  | "decimal" => do return .decimal (← decimalOfJson? (← content))
  | "string" => do return .string (← (← content).asString?)
  | "uuid" => do return .uuid (← Uuid.ofText? (← (← content).asString?))
  | "date" => do return .date (← Date.ofText? (← (← content).asString?))
  | "date_time" => do return .instant (← Instant.ofText? (← (← content).asString?))
  | _ => none

/-- Reads a value from JSON. -/
def ofJson? : Json → Option Value
  | .array [.string type, content] => ofTyped? type (some content)
  | .object members => do
    match ← (Json.object members).member? "type" with
    | .string type => ofTyped? type ((Json.object members).member? "value")
    | _ => none
  | _ => none

end RecordGateway.Value
