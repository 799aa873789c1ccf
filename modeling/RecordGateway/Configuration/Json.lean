import RecordGateway.Configuration.Basic

/-!
# Configurations as JSON

Settings are read from an object whose members have the names of the settings, or from an array of
the first few settings.  What is missing has its standard content, and nothing else is allowed.
-/

namespace RecordGateway.Configuration

/-- The content of a setting: the standard one if the setting is missing. -/
def settingOr {α : Type} (standard : α) (read : Json → Option α) : Option Json → Option α
  | none => some standard
  | some j => read j

/-- Reads a service account from an object of its two parts or from an array of both. -/
def serviceAccountOfJson? : Json → Option ServiceAccount
  | .array [.string username, .string password] => some ⟨username, password⟩
  | .object members => do
    if members.all fun m => m.1 = "username" ∨ m.1 = "password" then
      let username ← (Json.object members).member? "username"
      let password ← (Json.object members).member? "password"
      return ⟨← username.asString?, ← password.asString?⟩
    else none
  | _ => none

/-- The names of the settings in order. -/
def settingNames : List String :=
  ["endpoint", "authority", "client_id", "client_secret", "auth_mode", "service_identity",
    "max_page_size", "token_timeout_secs"]

/-- The settings whose contents `get?` tells. -/
def ofSettings? (get? : String → Option Json) : Option Configuration := do
  return {
    endpoint := ← settingOr standard.endpoint Json.asString? (get? "endpoint")
    authority := ← settingOr standard.authority Json.asString? (get? "authority")
    clientId := ← settingOr standard.clientId Json.asString? (get? "client_id")
    clientSecret := ← Json.optional? Json.asString? (get? "client_secret")
    authMode := ← settingOr standard.authMode AuthModeKind.ofJson? (get? "auth_mode")
    serviceIdentity := ← Json.optional? serviceAccountOfJson? (get? "service_identity")
    maxPageSize := .ofNat (← settingOr standard.maxPageSize.toNat (Json.naturalBelow? UInt32.size)
      (get? "max_page_size"))
    tokenTimeout := .ofNat (← settingOr standard.tokenTimeout.toNat (Json.naturalBelow? UInt64.size)
      (get? "token_timeout_secs")) }

/-- Reads settings. -/
def ofJson? : Json → Option Configuration
  | .array items =>
    if items.length ≤ settingNames.length then
      ofSettings? fun name => (settingNames.zip items).lookup name
    else none
  | .object members =>
    if members.all fun m => settingNames.contains m.1 then
      ofSettings? fun name => (Json.object members).member? name
    else none
  | _ => none

/-- A service account as JSON. -/
def serviceAccountJson (a : ServiceAccount) : Json :=
  .object [("username", .string a.username), ("password", .string a.password)]

/-- The settings as JSON. -/
def toJson (c : Configuration) : Json :=
  .object [
    ("endpoint", .string c.endpoint),
    ("authority", .string c.authority),
    ("client_id", .string c.clientId),
    ("client_secret", .ofOption .string c.clientSecret),
    ("auth_mode", .string c.authMode.text),
    ("service_identity", .ofOption serviceAccountJson c.serviceIdentity),
    ("max_page_size", .ofNat c.maxPageSize.toNat),
    ("token_timeout_secs", .ofNat c.tokenTimeout.toNat)]

end RecordGateway.Configuration
