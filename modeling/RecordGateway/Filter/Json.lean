import RecordGateway.Filter
import RecordGateway.Value.Json

/-!
# Filters as JSON

A filter travels as an object whose form tells what it is: a member `and`, `or` or `not` holds
further filters, and a member `compare`, `function` or `in` stands beside the field that is
tested.
-/

namespace RecordGateway

namespace Filter

mutual

/-- A filter as JSON. -/
def toJson : Filter → Json
  | group connective children => .object [(connective.text, .array (toJsons children))]
  | not inner => .object [("not", toJson inner)]
  | compare field comparison literal => .object
      [("compare", .string comparison.text), ("field", .string field), ("value", literal.toJson)]
  | textTest test field operand => .object
      [("function", .string test.text), ("field", .string field), ("value", .string operand)]
  | oneOf field literals =>
    .object [("in", .array (literals.map Value.toJson)), ("field", .string field)]

/-- Some filters as JSON. -/
def toJsons : List Filter → List Json
  | [] => []
  | f :: rest => toJson f :: toJsons rest

end

/-- The filter of an object with the given members that is no combination of filters. -/
def leafOf? (members : List (String × Json)) : Option Filter := do
  let member (name : String) := (Json.object members).member? name
  let field ← (← member "field").asString?
  match member "compare", member "function", member "in" with
  | some word, _, _ =>
    return .compare field (← Comparison.ofText? (← word.asString?))
      (← Value.ofJson? (← member "value"))
  | none, some word, _ =>
    return .textTest (← TextTest.ofText? (← word.asString?)) field
      (← (← member "value").asString?)
  | none, none, some list => return .oneOf field (← (← list.asArray?).mapM Value.ofJson?)
  | none, none, none => none

/-- The filter of an object whose members hold the filters `nested`, under the same names. -/
def ofParts? (members : List (String × Json)) (nested : List (String × List (Option Filter))) :
    Option Filter :=
  match nested.lookup "and", nested.lookup "or", nested.lookup "not" with
  | some children, _, _ => (children.mapM id).map (.group .and)
  | none, some children, _ => (children.mapM id).map (.group .or)
  | none, none, some [inner] => inner.map .not
  | none, none, some _ => none
  | none, none, none => leafOf? members

mutual

/-- Reads a filter. -/
def ofJson? : Json → Option Filter
  | .object members => ofParts? members (nestedIn members)
  | _ => none

/-- The filters in the members of an object: those of an array, or else a single one. -/
def nestedIn : List (String × Json) → List (String × List (Option Filter))
  | [] => []
  | (name, .array items) :: rest => (name, ofJsons items) :: nestedIn rest
  | (name, item) :: rest => (name, [ofJson? item]) :: nestedIn rest

/-- Reads some filters. -/
def ofJsons : List Json → List (Option Filter)
  | [] => []
  | item :: rest => ofJson? item :: ofJsons rest

end

end Filter

end RecordGateway
