import RecordGateway.Grant.Form
import RecordGateway.Records.Session
import RecordGateway.Text.Blank
import RecordGateway.Url.Reader

/-!
# The configuration

The settings of the gateway.  Everything that is derived from them is checked first, and of
several defects the first one is reported, each with the field in which it lies.
-/

namespace RecordGateway

/-- The settings of the gateway. -/
structure Configuration where
  /-- The address of the store. -/
  endpoint : String
  /-- The address of the identity provider. -/
  authority : String
  clientId : String
  clientSecret : Option String
  authMode : AuthModeKind
  /-- The account to use when tokens are obtained for a service account. -/
  serviceIdentity : Option ServiceAccount
  /-- The number of rows that a query may ask for at most. -/
  maxPageSize : UInt32
  /-- The number of seconds to wait for the identity provider. -/
  tokenTimeout : UInt64
deriving DecidableEq

/-- A defect of the settings. -/
structure ConfigError where
  field : String
  reason : String
deriving DecidableEq

/-- The defect as a sentence. -/
def ConfigError.message (e : ConfigError) : String :=
  s!"invalid configuration: {e.field}: {e.reason}"

namespace Configuration

/-- The settings when nothing is configured. -/
def standard : Configuration where
  endpoint := ""
  authority := "https://login.microsoftonline.com/common"
  clientId := ""
  clientSecret := none
  authMode := default
  serviceIdentity := none
  maxPageSize := 5000
  tokenTimeout := 30

instance : Inhabited Configuration := ⟨standard⟩

/-- The address in a field. -/
def webAddress (field text : String) : Except ConfigError Url :=
  if Text.onlyBlanks text then .error ⟨field, "must not be empty"⟩
  else (Url.ofText text).mapError fun e => ⟨field, e.message⟩

/-- The address of the store. -/
def endpointUrl (c : Configuration) : Except ConfigError Url :=
  webAddress "endpoint" c.endpoint

/-- The address of the identity provider. -/
def authorityUrl (c : Configuration) : Except ConfigError Url :=
  webAddress "authority" c.authority

/-- Checks that there is a service account if one is needed. -/
def checkServiceIdentity (c : Configuration) : Except ConfigError Unit :=
  match c.authMode, c.serviceIdentity with
  | .serviceIdentity, none =>
    .error ⟨"service_identity", "required when auth_mode is service_identity"⟩
  | .serviceIdentity, some account =>
    if Text.onlyBlanks account.username then
      .error ⟨"service_identity.username", "must not be empty"⟩
    else .ok ()
  | _, _ => .ok ()

/-- How sessions with the store are opened, after all settings have been checked. -/
def connectionSettings (c : Configuration) : Except ConfigError ConnectionSettings := do
  let endpoint ← c.endpointUrl
  discard c.authorityUrl
  if c.maxPageSize = 0 then .error ⟨"max_page_size", "must be greater than zero"⟩
  else
    c.checkServiceIdentity
    .ok { endpoint, authMode := c.authMode, serviceIdentity := c.serviceIdentity }

/-- The client that requests tokens from the identity provider. -/
def grantClient (c : Configuration) : Except ConfigError GrantClient := do
  let authority ← c.authorityUrl
  if Text.onlyBlanks c.clientId then
    .error ⟨"client_id", "required by the OAuth2 credential provider"⟩
  else if c.clientSecret.isNone ∧ c.authMode ≠ .serviceIdentity then
    .error ⟨"client_secret", s!"required for auth_mode {c.authMode.text}"⟩
  else match Url.ofText (GrantClient.tokenUrlText authority) with
    | .ok tokenUrl => .ok { tokenUrl, clientId := c.clientId, clientSecret := c.clientSecret }
    | .error e => .error ⟨"authority", s!"internal error: invalid authority: {e.message}"⟩

end Configuration

end RecordGateway
