import RecordGateway.Entity
import RecordGateway.Value.Json

/-!
# Entities as JSON

An entity travels as an object; its attributes are an object of values.
-/

namespace RecordGateway

/-- The attributes of an object of values. -/
def Attributes.ofJson? : Json → Option Attributes
  | .object members => do
    return .ofList (← members.mapM fun m => do return (m.1, ← Value.ofJson? m.2))
  | _ => none

/-- Attributes as JSON. -/
def Attributes.toJson (as : Attributes) : Json :=
  .object (as.entries.map fun e => (e.1, e.2.toJson))

/-- Reads an identifier. -/
def Uuid.ofJson? (j : Json) : Option Uuid :=
  j.asString?.bind Uuid.ofText?

/-- An identifier as JSON. -/
def Uuid.toJson (u : Uuid) : Json :=
  .string u.toText

namespace Entity

/-- An entity as JSON. -/
def toJson (e : Entity) : Json :=
  .object [
    ("logical_name", .string e.logicalName),
    ("id", .ofOption Uuid.toJson e.id),
    ("row_version", .ofOption .string e.rowVersion),
    ("attributes", e.attributes.toJson)]

/-- Reads an entity. -/
def ofJson? (j : Json) : Option Entity := do
  return {
    logicalName := ← (← j.member? "logical_name").asString?
    id := ← Json.optional? Uuid.ofJson? (j.member? "id")
    rowVersion := ← Json.optional? Json.asString? (j.member? "row_version")
    attributes := (← Json.optional? Attributes.ofJson? (j.member? "attributes")).getD .empty }

end Entity

end RecordGateway
