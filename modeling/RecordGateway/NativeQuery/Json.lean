import RecordGateway.NativeQuery
import RecordGateway.QueryRequest.Json

/-!
# Native queries as JSON

A native query travels as an object with a member for each of its parts, any of which but the
entity may be missing or null.
-/

namespace RecordGateway

namespace ConditionOperator

/-- The names of the operators. -/
def names : List (String × ConditionOperator) :=
  [("Equal", equal), ("NotEqual", notEqual), ("LessThan", lessThan), ("LessEqual", lessEqual),
    ("GreaterThan", greaterThan), ("GreaterEqual", greaterEqual), ("Like", like),
    ("NotLike", notLike), ("BeginsWith", beginsWith), ("DoesNotBeginWith", doesNotBeginWith),
    ("EndsWith", endsWith), ("DoesNotEndWith", doesNotEndWith), ("Null", isNull),
    ("NotNull", isNotNull), ("In", isIn), ("NotIn", isNotIn)]

/-- The name of an operator. -/
def text (op : ConditionOperator) : String :=
  ((names.find? fun n => n.2 = op).map (·.1)).getD ""

/-- The operator with a name. -/
def ofText? (name : String) : Option ConditionOperator :=
  names.lookup name

end ConditionOperator

namespace Condition

/-- A condition as JSON. -/
def toJson (c : Condition) : Json :=
  .object [
    ("attribute", .string c.attributeName),
    ("operator", .string c.operator.text),
    ("values", .array (c.operands.map Value.toJson))]

/-- Reads a condition. -/
def ofJson? (j : Json) : Option Condition := do
  return {
    attributeName := ← (← j.member? "attribute").asString?
    operator := ← ConditionOperator.ofText? (← (← j.member? "operator").asString?)
    operands := ← Json.optionalItems? Value.ofJson? (j.member? "values") }

end Condition

namespace Criteria

mutual

/-- A group as JSON. -/
def toJson : Criteria → Json
  | ⟨connective, conditions, nested⟩ => .object [
      ("op", .string connective.text),
      ("conditions", .array (conditions.map Condition.toJson)),
      ("filters", .array (toJsons nested))]

/-- Some groups as JSON. -/
def toJsons : List Criteria → List Json
  | [] => []
  | c :: rest => toJson c :: toJsons rest

end

/-- The group of an object with the given members, whose nested groups have been read. -/
def ofParts? (members : List (String × Json)) (nested : List (Option Criteria)) :
    Option Criteria := do
  let member (name : String) := (Json.object members).member? name
  let word ← Json.optional? Json.asString? (member "op")
  return {
    connective := ← Connective.ofText? (word.getD "and")
    conditions := ← Json.optionalItems? Condition.ofJson? (member "conditions")
    nested := ← nested.mapM id }

mutual

/-- Reads a group. -/
def ofJson? : Json → Option Criteria
  | .object members => ofParts? members (nestedIn members)
  | _ => none

/-- The nested groups in the members of an object. -/
def nestedIn : List (String × Json) → List (Option Criteria)
  | [] => []
  | ("filters", .array items) :: _ => ofJsons items
  | _ :: rest => nestedIn rest

/-- Reads some groups. -/
def ofJsons : List Json → List (Option Criteria)
  | [] => []
  | item :: rest => ofJson? item :: ofJsons rest

end

end Criteria

namespace ColumnSet

/-- The columns as JSON: null stands for all. -/
def toJson : ColumnSet → Json
  | all => .null
  | only attributes => .array (attributes.map .string)

/-- Reads columns. -/
def ofJson? (j : Option Json) : Option ColumnSet := do
  return ((← Json.optional? QueryRequest.namesOfJson? j).map only).getD all

end ColumnSet

namespace SortOrder

/-- A sort order as JSON. -/
def toJson (o : SortOrder) : Json :=
  .object [("attribute", .string o.attributeName), ("direction", .string o.direction.text)]

/-- Reads a sort order. -/
def ofJson? (j : Json) : Option SortOrder := do
  return ⟨← (← j.member? "attribute").asString?, ← Direction.ofJson? (← j.member? "direction")⟩

end SortOrder

namespace Page

/-- A page as JSON, with the number of rows in front of it. -/
def toJson (p : Page) : Json :=
  .object [
    ("count", .ofNat p.count.toNat), ("page", .ofNat p.number.toNat), ("offset", .ofNat p.offset)]

/-- Reads a page. -/
def ofJson? (j : Json) : Option Page := do
  let part (name : String) : Option UInt32 := do
    return .ofNat (← Json.naturalBelow? UInt32.size (← j.member? name))
  return ⟨← part "count", ← part "page"⟩

end Page

namespace NativeQuery

/-- The members of a query as JSON, with the depth of the criteria and whether the page is
empty. -/
def toMembers (q : NativeQuery) : List (String × Json) :=
  [ ("entity", .string q.entityName),
    ("criteria", q.criteria.toJson),
    ("columns", q.columns.toJson),
    ("orders", .array (q.orders.map SortOrder.toJson)),
    ("paging", .ofOption Page.toJson q.page),
    ("yields_nothing", .bool q.yieldsNothing),
    ("depth", .ofNat q.criteria.depth) ]

/-- Reads a query. -/
def ofJson? (j : Json) : Option NativeQuery := do
  return {
    entityName := ← (← j.member? "entity").asString?
    criteria := (← Json.optional? Criteria.ofJson? (j.member? "criteria")).getD .empty
    columns := ← ColumnSet.ofJson? (j.member? "columns")
    orders := ← Json.optionalItems? SortOrder.ofJson? (j.member? "orders")
    page := ← Json.optional? Page.ofJson? (j.member? "paging") }

end NativeQuery

end RecordGateway
