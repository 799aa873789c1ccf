import RecordGateway.Json.Basic
import RecordGateway.Url.Basic

/-!
# Credentials

A store is entered with an access token.  In which of three modes a token is obtained is a matter
of configuration; what a mode needs besides, a password or the token of the caller, comes with the
request.  Whatever hands out tokens is a token source.
-/

namespace RecordGateway

/-- A way to obtain access tokens. -/
inductive AuthModeKind where
  /-- On behalf of the caller. -/
  | delegated
  /-- With the name and the password of a service account. -/
  | serviceIdentity
  /-- For the application itself. -/
  | application
deriving DecidableEq

namespace AuthModeKind

/-- Tokens are obtained on behalf of the caller unless something else is configured. -/
instance : Inhabited AuthModeKind := ⟨delegated⟩

/-- The name of the mode. -/
def text : AuthModeKind → String
  | delegated => "delegated"
  | serviceIdentity => "service_identity"
  | application => "application"

/-- The mode with a name. -/
def ofText? : String → Option AuthModeKind
  | "delegated" => some delegated
  | "service_identity" => some serviceIdentity
  | "application" => some application
  | _ => none

/-- Reads a mode from its name, or from an object whose one member has the name and is null. -/
def ofJson? : Json → Option AuthModeKind
  | .string name => ofText? name
  | .object [(name, .null)] => ofText? name
  | _ => none

end AuthModeKind

/-- A mode together with what it needs to obtain a token. -/
inductive AuthMode where
  /-- On behalf of the caller whose own token is the assertion. -/
  | delegated (assertion : String)
  | serviceIdentity (username password : String)
  | application
deriving DecidableEq

/-- The mode alone. -/
def AuthMode.kind : AuthMode → AuthModeKind
  | delegated _ => .delegated
  | serviceIdentity _ _ => .serviceIdentity
  | application => .application

/-- A token that opens a session with a store. -/
structure AccessToken where
  secret : String
deriving DecidableEq

/-- Why no token could be obtained. -/
inductive CredentialError where
  | unauthorized (reason : String)
  | unavailable (reason : String)
  | unsupportedMode (mode : AuthModeKind)
  | internal (reason : String)
deriving DecidableEq

/-- The error as a sentence. -/
def CredentialError.message : CredentialError → String
  | unauthorized reason => s!"unauthorized: {reason}"
  | unavailable reason => s!"credential service unavailable: {reason}"
  | unsupportedMode mode => s!"authentication mode '{mode.text}' is not supported"
  | internal reason => s!"internal error: {reason}"

/-- Something that hands out tokens for an endpoint, and may remember that it did. -/
class TokenSource (S : Type) where
  acquire : S → Url → AuthMode → S × Except CredentialError AccessToken

end RecordGateway
