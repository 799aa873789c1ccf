import RecordGateway.Records.Error
import RecordGateway.Script.Basic

/-!
# Sessions

An operation runs in the scope of a caller.  The first operation that needs the store obtains a
token and opens a session, and the operations after it in the same scope use that session.  An
attempt that fails is not remembered, so the next operation makes another one.
-/

namespace RecordGateway

/-- The one on whose behalf operations run. -/
structure Caller where
  subject : Uuid
  /-- The caller's own token. -/
  bearerToken : Option String
deriving DecidableEq

namespace Caller

/-- The caller without a subject and without a token. -/
def anonymous : Caller := ⟨.nil, none⟩

/-- Whether nothing is known about the caller. -/
def isAnonymous (c : Caller) : Bool :=
  c == anonymous

end Caller

/-- The name and the password of a service account. -/
structure ServiceAccount where
  username : String
  password : String
deriving DecidableEq

/-- How sessions with the store are opened. -/
structure ConnectionSettings where
  endpoint : Url
  authMode : AuthModeKind
  serviceIdentity : Option ServiceAccount
deriving DecidableEq

/-- The mode in which a token is obtained for a caller. -/
def ConnectionSettings.modeFor (s : ConnectionSettings) (caller : Caller) :
    Except CredentialError AuthMode :=
  match s.authMode with
  | .delegated => match caller.bearerToken with
    | some assertion => .ok (.delegated assertion)
    | none => .error (.unauthorized "delegated access requires the caller's bearer token")
  | .serviceIdentity => match s.serviceIdentity with
    | some account => .ok (.serviceIdentity account.username account.password)
    | none => .error (.internal "service identity credentials are not configured")
  | .application => .ok .application

/-- The scope in which the operations of one request run. -/
structure RequestScope where
  caller : Caller
  /-- Whether a session has been opened. -/
  connected : Bool
deriving DecidableEq

/-- The scope of a caller before the first operation. -/
def RequestScope.ofCaller (caller : Caller) : RequestScope := ⟨caller, false⟩

/-- A script that runs in a scope and may fail; what it did to the scope remains. -/
abbrev Operation := ExceptT RecordError (StateT RequestScope Script)

namespace Operation

variable {α : Type}

/-- The script of an operation in a scope. -/
def inScope (x : Operation α) (scope : RequestScope) :
    Script (Except RecordError α × RequestScope) :=
  x.run.run scope

/-- A result, or a failure for the reason that `f` makes of an error. -/
def ofExcept {ε : Type} (f : ε → RecordError) : Except ε α → Operation α
  | .ok a => pure a
  | .error e => throw (f e)

/-- A result, or a failure. -/
def ofResult (x : Except RecordError α) : Operation α :=
  ofExcept id x

/-- A script whose result may be an error. -/
def ofScript {ε : Type} (f : ε → RecordError) (s : Script (Except ε α)) : Operation α := do
  ofExcept f (← s)

end Operation

/-- Opens a session unless the scope has one. -/
def acquire (settings : ConnectionSettings) : Operation Unit := do
  let scope ← get
  unless scope.connected do
    let mode ← .ofExcept .credential (settings.modeFor scope.caller)
    let token ← .ofScript .credential (.perform (.token settings.endpoint mode))
    .ofScript .ofStore (.perform (.connect token))
    set { scope with connected := true }

namespace Session

/-- Creates a record. -/
def create (e : Entity) (fresh : Uuid) : Operation Uuid :=
  .ofScript .ofStore (.perform (.create e fresh))

/-- Reads a record. -/
def retrieve (logicalName : String) (id : Uuid) (columns : ColumnSet) :
    Operation (Option Entity) :=
  .ofScript .ofStore (.perform (.retrieve logicalName id columns))

/-- Reads the records that a query asks for. -/
def retrieveMultiple (q : NativeQuery) : Operation (List Entity) :=
  .ofScript .ofStore (.perform (.retrieveMultiple q))

/-- Changes a record. -/
def update (e : Entity) : Operation Unit :=
  .ofScript .ofStore (.perform (.update e))

/-- Deletes a record and tells whether there was one; a record that the store does not know has
been deleted before. -/
def delete (logicalName : String) (id : Uuid) : Operation Bool := do
  match ← (Script.perform (.delete logicalName id) : Script (Except StoreError Bool)) with
  | .ok deleted => return deleted
  | .error (.recordNotFound _ _) => return false
  | .error e => throw (.ofStore e)

end Session

end RecordGateway
