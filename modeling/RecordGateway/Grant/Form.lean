import RecordGateway.Credential.Basic

/-!
# Token requests

What is sent to a token endpoint to obtain a token for a resource: a form whose fields depend on
the mode.  An application proves itself by the secret of the client, a service account by its
password, and a request on behalf of a caller by the caller's own token beside the secret.
-/

namespace RecordGateway

/-- The fields of a form in order. -/
abbrev Form := List (String × String)

/-- A client that is registered with an identity provider. -/
structure GrantClient where
  /-- Where tokens are requested. -/
  tokenUrl : Url
  clientId : String
  clientSecret : Option String
deriving DecidableEq

/-- The grant type of a request on behalf of a caller. -/
def onBehalfOfGrant : String := "urn:ietf:params:oauth:grant-type:jwt-bearer"

namespace GrantClient

/-- The token endpoint of an identity provider, below the address of the provider. -/
def tokenUrlText (authority : Url) : String :=
  authority.trimmedText ++ "/oauth2/v2.0/token"

/-- The secret of the client, which tokens of some modes cannot be requested without. -/
def secretFor (c : GrantClient) (mode : AuthModeKind) : Except CredentialError String :=
  match c.clientSecret with
  | some secret => .ok secret
  | none => .error (.internal s!"client secret required for {mode.text} tokens")

/-- The form that requests a token for an endpoint. -/
def form (c : GrantClient) (endpoint : Url) (mode : AuthMode) : Except CredentialError Form :=
  let start : Form := [("client_id", c.clientId), ("scope", endpoint.trimmedText ++ "/.default")]
  match mode with
  | .application => do
    let secret ← c.secretFor .application
    .ok (start ++ [("grant_type", "client_credentials"), ("client_secret", secret)])
  | .serviceIdentity username password =>
    .ok (start ++ [("grant_type", "password"), ("username", username), ("password", password)] ++
      c.clientSecret.toList.map fun secret => ("client_secret", secret))
  | .delegated assertion => do
    let secret ← c.secretFor .delegated
    .ok (start ++ [("grant_type", onBehalfOfGrant), ("client_secret", secret),
      ("assertion", assertion), ("requested_token_use", "on_behalf_of")])

end GrantClient

end RecordGateway
