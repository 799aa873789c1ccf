import RecordGateway.Filter.Json
import RecordGateway.QueryRequest

/-!
# Query requests as JSON

A request travels as an object with a member for each of its parts, any of which may be missing or
null.
-/

namespace RecordGateway

namespace Direction

/-- The direction as a word. -/
def text : Direction → String
  | ascending => "asc"
  | descending => "desc"

/-- The direction with a name. -/
def ofText? : String → Option Direction
  | "asc" => some ascending
  | "desc" => some descending
  | _ => none

/-- Reads a direction from its name. -/
def ofJson? (j : Json) : Option Direction :=
  j.asString?.bind ofText?

end Direction

namespace SortKey

/-- A sort key as JSON. -/
def toJson (k : SortKey) : Json :=
  .object [("field", .string k.field), ("direction", .string k.direction.text)]

/-- Reads a sort key. -/
def ofJson? (j : Json) : Option SortKey := do
  return ⟨← (← j.member? "field").asString?, ← Direction.ofJson? (← j.member? "direction")⟩

end SortKey

namespace QueryRequest

/-- A request as JSON. -/
def toJson (q : QueryRequest) : Json :=
  .object [
    ("filter", .ofOption Filter.toJson q.filter),
    ("order_by", .array (q.orderBy.map SortKey.toJson)),
    ("select", .ofOption (fun fields => .array (fields.map .string)) q.select),
    ("skip", Value.optionalInt64Json q.skip),
    ("top", Value.optionalInt64Json q.top)]

/-- Reads a list of strings. -/
def namesOfJson? (j : Json) : Option (List String) := do
  (← j.asArray?).mapM Json.asString?

/-- Reads a request. -/
def ofJson? (j : Json) : Option QueryRequest := do
  return {
    filter := ← Json.optional? Filter.ofJson? (j.member? "filter")
    orderBy := ← Json.optionalItems? SortKey.ofJson? (j.member? "order_by")
    select := ← Json.optional? namesOfJson? (j.member? "select")
    skip := ← Json.optional? Value.int64OfJson? (j.member? "skip")
    top := ← Json.optional? Value.int64OfJson? (j.member? "top") }

end QueryRequest

end RecordGateway
