import RecordGateway.Data.Contact
import RecordGateway.Mapping.Json

/-!
# Contacts as JSON

A person without a name has the empty one.
-/

namespace RecordGateway.Contact

/-- A person as JSON. -/
def toJson (c : Contact) : Json :=
  .object [
    ("id", .ofOptionalString c.id),
    ("version", .ofOptionalString c.version),
    ("name", .string c.name),
    ("city", .ofOptionalString c.city),
    ("age", Value.optionalInt64Json c.age),
    ("email", .ofOptionalString c.email),
    ("phone", .ofOptionalString c.phone)]

/-- Reads a person. -/
def ofJson? (j : Json) : Option Contact := do
  let text (name : String) := Json.optional? Json.asString? (j.member? name)
  return {
    id := ← text "id"
    version := ← text "version"
    name := (← text "name").getD ""
    city := ← text "city"
    age := ← Json.optional? Value.int64OfJson? (j.member? "age")
    email := ← text "email"
    phone := ← text "phone" }

/-- Reads a partial update of a person. -/
def Patch.ofJson? (j : Json) : Option Patch := do
  return {
    version := ← Json.optional? Json.asString? (j.member? "version")
    name := ← Json.optional? Json.asString? (j.member? "name")
    city := ← FieldUpdate.ofJson? Json.asString? (j.member? "city")
    age := ← FieldUpdate.ofJson? Value.int64OfJson? (j.member? "age")
    email := ← FieldUpdate.ofJson? Json.asString? (j.member? "email")
    phone := ← FieldUpdate.ofJson? Json.asString? (j.member? "phone") }

end RecordGateway.Contact
