import RecordGateway.Uuid

/-!
# Store errors

Why a store refuses a connection or a call.
-/

namespace RecordGateway

/-- Why a store refuses a connection or a call. -/
inductive StoreError where
  | unauthorized (reason : String)
  | recordNotFound (logicalName : String) (id : Uuid)
  | versionMismatch (logicalName : String) (id : Uuid)
  | rejected (reason : String)
  | unavailable (reason : String)
  | internal (reason : String)
deriving DecidableEq

/-- The error as a sentence. -/
def StoreError.message : StoreError → String
  | unauthorized reason => s!"store rejected credentials: {reason}"
  | recordNotFound logicalName id => s!"{logicalName} record {id.toText} does not exist"
  | versionMismatch logicalName id => s!"{logicalName} record {id.toText} was modified concurrently"
  | rejected reason => s!"store rejected request: {reason}"
  | unavailable reason => s!"store unavailable: {reason}"
  | internal reason => s!"store internal error: {reason}"

end RecordGateway
