import RecordGateway.Configuration.Basic
import RecordGateway.Grant.Cache
import RecordGateway.Records.Client
import RecordGateway.Registry

/-!
# The gateway

A gateway is set up from a configuration and a registry and hands out managers and clients for the
registered kinds of data objects.  A configuration that could make a later call fail is refused
when the gateway is set up.
-/

namespace RecordGateway

/-- What the managers and clients share. -/
structure Gateway where
  settings : ConnectionSettings
  registry : Registry
  maxPageSize : UInt32

/-- Why a gateway cannot be set up. -/
inductive BootstrapError where
  | configuration (error : ConfigError)
  | grants (error : ConfigError)
deriving DecidableEq

/-- The error as a sentence. -/
def BootstrapError.message : BootstrapError → String
  | configuration error => s!"invalid crm_bridge configuration: {error.message}"
  | grants error =>
    s!"failed to set up the OAuth2 credential provider: {error.message}"

namespace Gateway

/-- The gateway of a configuration. -/
def ofConfiguration (c : Configuration) (registry : Registry) : Except BootstrapError Gateway := do
  let settings ← c.connectionSettings.mapError .configuration
  .ok { settings, registry, maxPageSize := c.maxPageSize }

/-- The gateway of a configuration together with the token source that the configuration
describes. -/
def withGrants (c : Configuration) (registry : Registry) :
    Except BootstrapError (Gateway × GrantCache) := do
  let client ← c.grantClient.mapError .grants
  let gateway ← ofConfiguration c registry
  .ok (gateway, .ofClient client)

/-- The manager of a kind of data object. -/
def manager (g : Gateway) (k : RecordKind) : Except RegistryError (Manager k.Data) := do
  let registration ← g.registry.resolve k
  .ok {
    logicalName := registration.logicalName
    mapper := registration.mapper
    settings := g.settings
    maxPageSize := g.maxPageSize }

/-- The client of a kind of data object. -/
def client (g : Gateway) (k : RecordKind) : Except RegistryError (RecordsClient k.Data) :=
  (g.manager k).map RecordsClient.mk

end Gateway

end RecordGateway
