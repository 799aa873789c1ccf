import RecordGateway.Data.Account
import RecordGateway.Mapping.Json

/-!
# Accounts as JSON

A company without a name has the empty one.
-/

namespace RecordGateway.Account

/-- A company as JSON. -/
def toJson (a : Account) : Json :=
  .object [
    ("id", .ofOptionalString a.id),
    ("version", .ofOptionalString a.version),
    ("name", .string a.name),
    ("phone", .ofOptionalString a.phone),
    ("employees", Value.optionalInt64Json a.employees),
    ("city", .ofOptionalString a.city)]

/-- Reads a company. -/
def ofJson? (j : Json) : Option Account := do
  let text (name : String) := Json.optional? Json.asString? (j.member? name)
  return {
    id := ← text "id"
    version := ← text "version"
    name := (← text "name").getD ""
    phone := ← text "phone"
    employees := ← Json.optional? Value.int64OfJson? (j.member? "employees")
    city := ← text "city" }

/-- Reads a partial update of a company. -/
def Patch.ofJson? (j : Json) : Option Patch := do
  return {
    version := ← Json.optional? Json.asString? (j.member? "version")
    name := ← Json.optional? Json.asString? (j.member? "name")
    phone := ← FieldUpdate.ofJson? Json.asString? (j.member? "phone")
    employees := ← FieldUpdate.ofJson? Value.int64OfJson? (j.member? "employees")
    city := ← FieldUpdate.ofJson? Json.asString? (j.member? "city") }

end RecordGateway.Account
