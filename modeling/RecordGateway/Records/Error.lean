import RecordGateway.Compilation.Error
import RecordGateway.Credential.Basic
import RecordGateway.Mapping.Basic
import RecordGateway.OData.Lowering
import RecordGateway.Store.Error

/-!
# Errors of record operations

Why an operation on records fails, in full for the service itself and in the shorter form that its
clients get: a client learns what it can mend, and of a failure inside the service only that there
was one.
-/

namespace RecordGateway

/-- Why an operation on records fails. -/
inductive RecordError where
  | validation (field reason : String)
  | query (error : CompilationError)
  | conflict (entity id reason : String)
  | notFound (entity id : String)
  | credential (error : CredentialError)
  | store (error : StoreError)
  | notImplemented (operation : String)
  | internal (reason : String)
deriving DecidableEq

/-- Why an operation fails, as its clients are told. -/
inductive ClientError where
  | validation (reason : String)
  | conflict (id reason : String)
  | notFound (id : String)
  | store (reason : String)
  | notImplemented (operation : String)
  | internal
deriving DecidableEq

namespace ClientError

/-- The error as a sentence. -/
def message : ClientError → String
  | validation reason => s!"Validation error: {reason}"
  | conflict id reason => s!"Record {id} was modified concurrently: {reason}"
  | notFound id => s!"Resource not found: {id}"
  | store reason => s!"Store error: {reason}"
  | notImplemented operation => s!"Operation '{operation}' is not implemented"
  | internal => "Internal error"

/-- Query options that are refused are the client's fault. -/
def ofOption (e : OData.OptionError) : ClientError :=
  .validation e.message

end ClientError

namespace RecordError

/-- The error as a sentence. -/
def message : RecordError → String
  | validation field reason => s!"Validation failed: {field}: {reason}"
  | query error => s!"Query translation failed: {error.message}"
  | conflict entity id reason => s!"{entity} record {id} was modified concurrently: {reason}"
  | notFound entity id => s!"{entity} record not found: {id}"
  | credential error => s!"Credential acquisition failed: {error.message}"
  | store error => s!"Store call failed: {error.message}"
  | notImplemented operation => s!"Operation '{operation}' is not implemented"
  | internal reason => s!"Internal error: {reason}"

/-- A data object that has no entity is the caller's fault. -/
def ofMappingIn (e : MappingError) : RecordError :=
  .validation "data" e.message

/-- A stored entity that has no data object is the service's fault. -/
def ofMappingOut (e : MappingError) : RecordError :=
  .internal s!"stored record could not be mapped: {e.message}"

/-- The refusal of a store: a missing record and a changed one have errors of their own. -/
def ofStore : StoreError → RecordError
  | .recordNotFound logicalName id => .notFound logicalName id.toText
  | .versionMismatch logicalName id =>
    .conflict logicalName id.toText "row version changed before the update was applied"
  | e => .store e

/-- The error as clients are told. -/
def forClient : RecordError → ClientError
  | validation field reason => .validation s!"{field}: {reason}"
  | query error => .validation error.message
  | conflict _ id reason => .conflict id reason
  | notFound _ id => .notFound id
  | credential error => .store s!"credential acquisition failed: {error.message}"
  | store error => .store error.message
  | notImplemented operation => .notImplemented operation
  | internal _ => .internal

end RecordError

end RecordGateway
