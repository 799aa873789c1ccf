import RecordGateway.Mapping.Basic
import RecordGateway.Value.Json

/-!
# Fields as JSON

In a data object a field that is missing counts as none.  In a partial update a field that is
missing stays as it is, and null takes its content away.
-/

namespace RecordGateway

/-- Reads the update of a field from a member that may be missing. -/
def FieldUpdate.ofJson? {α : Type} (read : Json → Option α) :
    Option Json → Option (FieldUpdate α)
  | none => some none
  | some j => (Json.optional? read (some j)).map some

end RecordGateway
