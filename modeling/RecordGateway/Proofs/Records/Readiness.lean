import RecordGateway.Proofs.Compilation.Windows
import RecordGateway.Proofs.Grant.Reuse
import RecordGateway.Proofs.Records.Delegation

/-!
# What a gateway that has been set up is ready for

The settings are checked when a gateway is set up together with its token source.  After that no
call meets a setting that is missing: the mode for a caller is known unless access is on behalf of
callers and the caller has no token, the form of every request for a token can be made, and a query
may ask for as many rows as are configured.
-/

namespace RecordGateway

/-! ### The checks -/

namespace Configuration

variable {c : Configuration}

/-- What is checked of the settings for sessions. -/
lemma of_connectionSettings_eq_ok {settings : ConnectionSettings}
    (h : c.connectionSettings = .ok settings) :
    settings.authMode = c.authMode ∧ 0 < c.maxPageSize.toNat ∧
      (settings.authMode = .serviceIdentity → settings.serviceIdentity ≠ none) := by
  unfold connectionSettings at h
  obtain ⟨endpoint, -, h⟩ := bind_eq_ok.mp h
  obtain ⟨-, -, h⟩ := bind_eq_ok.mp h
  split at h
  · cases h
  · rename_i hpage
    obtain ⟨_, hidentity, h⟩ := bind_eq_ok.mp h
    obtain rfl := Except.ok.inj h
    refine ⟨rfl, ?_, ?_⟩
    · refine Nat.pos_of_ne_zero ?_
      intro hzero
      exact hpage (UInt32.toNat_inj.mp hzero)
    · intro hmode hnone
      have hmode : c.authMode = .serviceIdentity := hmode
      have hnone : c.serviceIdentity = none := hnone
      unfold checkServiceIdentity at hidentity
      rw [hmode, hnone] at hidentity
      cases hidentity

/-- What is checked of the settings for requests for tokens. -/
lemma of_grantClient_eq_ok {client : GrantClient} (h : c.grantClient = .ok client)
    (hsecret : client.clientSecret = none) : c.authMode = .serviceIdentity := by
  unfold grantClient at h
  obtain ⟨authority, -, h⟩ := bind_eq_ok.mp h
  split at h
  · cases h
  · split at h
    · cases h
    · rename_i hcheck
      split at h
      · obtain rfl := Except.ok.inj h
        have hsecret : c.clientSecret = none := hsecret
        simpa [hsecret] using hcheck
      · cases h

end Configuration

/-- What a gateway and its token source are set up with. -/
lemma Gateway.of_withGrants_eq_ok {c : Configuration} {registry : Registry} {g : Gateway}
    {cache : GrantCache} (h : withGrants c registry = .ok (g, cache)) :
    c.grantClient = .ok cache.client ∧ c.connectionSettings = .ok g.settings ∧
      g.maxPageSize = c.maxPageSize := by
  unfold withGrants ofConfiguration at h
  obtain ⟨client, hclient, h⟩ := bind_eq_ok.mp h
  obtain ⟨gateway, hgateway, h⟩ := bind_eq_ok.mp h
  obtain ⟨settings, hsettings, hmk⟩ := bind_eq_ok.mp hgateway
  obtain ⟨rfl, rfl⟩ := Prod.mk.inj (Except.ok.inj h)
  obtain rfl := Except.ok.inj hmk
  exact ⟨mapError_eq_ok.mp hclient, mapError_eq_ok.mp hsettings, rfl⟩

/-! ### Requests for tokens -/

/-- The mode for a caller is of the kind that is configured. -/
lemma ConnectionSettings.kind_of_modeFor {settings : ConnectionSettings} {caller : Caller}
    {mode : AuthMode} (h : settings.modeFor caller = .ok mode) :
    mode.kind = settings.authMode := by
  unfold modeFor at h
  split at h
  · rename_i hmode
    rw [hmode]
    split at h
    · obtain rfl := Except.ok.inj h
      rfl
    · cases h
  · rename_i hmode
    rw [hmode]
    split at h
    · obtain rfl := Except.ok.inj h
      rfl
    · cases h
  · rename_i hmode
    rw [hmode]
    obtain rfl := Except.ok.inj h
    rfl

/-- An operation that opens a session first asks for a token in the mode for its caller only, and
with the token source as it finds it. -/
lemma Operation.OpensFirst.of_mem_acquisitions {α : Type} {settings : ConnectionSettings}
    {x : Operation α} (h : x.OpensFirst settings) {scope : RequestScope}
    {b : Backend GrantedTokens} {a : Acquisition}
    (ha : a ∈ (x.inScope scope).acquisitions b) :
    ∃ mode, settings.modeFor scope.caller = .ok mode ∧
      a = b.tokens.acquisition settings.endpoint mode := by
  obtain ⟨t, ht, hacquisition⟩ := List.mem_filterMap.mp ha
  have hopens : t.request.opensSession ≠ false := by
    intro hnone
    rw [Turn.acquisition?_eq_none hnone] at hacquisition
    cases hacquisition
  obtain ⟨caller, connected⟩ := scope
  cases connected with
  | true => exact absurd (h.staysInSession.forall_turns rfl b t ht) hopens
  | false =>
    rcases h.turns_cases caller b with hnil | ⟨mode, rest, hmode, hturns, hrest⟩
    · have ht : t ∈ (x.inScope (.ofCaller caller)).turns b := ht
      rw [hnil] at ht
      cases ht
    · have ht : t ∈ (x.inScope (.ofCaller caller)).turns b := ht
      rw [hturns] at ht
      rcases List.mem_cons.mp ht with rfl | hlater
      · exact ⟨mode, hmode, (Option.some.inj hacquisition).symm⟩
      · rcases hrest with rfl | ⟨token, calls, -, rfl, hcalls⟩
        · cases hlater
        · rcases List.mem_cons.mp hlater with rfl | hcall
          · cases hacquisition
          · exact absurd (hcalls t hcall) hopens

/-- Whether nothing of the client is missing for a request for a token: its form can be made, and if
the request fails, then for the reply of the provider. -/
def Acquisition.Unhindered (client : GrantClient) (a : Acquisition) : Prop :=
  (∃ form, client.form a.endpoint a.mode = .ok form) ∧
    ∀ e, a.result = .error e → a.exchange.reply.result client.tokenUrl = .error e

/-- A request whose form can be made fails for the reply of the provider only. -/
lemma GrantCache.Arises.unhindered {g g' : GrantCache} {a : Acquisition} (h : g.Arises a g')
    {form : Form} (hform : g.client.form a.endpoint a.mode = .ok form) :
    a.Unhindered g.client := by
  refine ⟨⟨form, hform⟩, ?_⟩
  intro e he
  cases h with
  | served _ => cases he
  | refused _ hrefused =>
    rw [hform] at hrefused
    cases hrefused
  | failed _ _ hreply =>
    obtain rfl := Except.error.inj he
    exact hreply
  | issued _ _ _ => cases he

/-- Requests for tokens do not change the client. -/
lemma GrantCache.Arises.client_eq {g g' : GrantCache} {a : Acquisition} (h : g.Arises a g') :
    g'.client = g.client := by
  cases h with
  | served _ => rfl
  | refused _ _ => rfl
  | failed _ _ _ => rfl
  | issued _ _ _ => exact accept_client _

/-- No request changes the client of the token source. -/
lemma Backend.client_answer (b : Backend GrantedTokens) (r : Request) :
    (b.answer r).1.tokens.cache.client = b.tokens.cache.client := by
  cases r with
  | token endpoint mode => exact (b.tokens.arises_acquisition endpoint mode).client_eq
  | _ => exact congrArg (·.cache.client) (b.tokens_call _ _)

/-- A run leaves the client of the token source as it is. -/
theorem Script.client_run {α : Type} (x : Script α) (b : Backend GrantedTokens) :
    (x.run Backend.answer b).1.tokens.cache.client = b.tokens.cache.client := by
  induction x generalizing b with
  | done a => rfl
  | ask r next ih => exact (ih (b.answer r).2 (b.answer r).1).trans (b.client_answer r)

/-- All visits find the same client. -/
lemma Gateway.client_of_mem_serveAll {g : Gateway} {b : Backend GrantedTokens}
    {visits : List Visit} {p : Passage} (hp : p ∈ g.serveAll b visits) :
    p.backend.tokens.cache.client = b.tokens.cache.client := by
  induction visits generalizing b with
  | nil => cases hp
  | cons v visits ih =>
    rcases List.mem_cons.mp hp with rfl | hlater
    · rfl
    · exact (ih hlater).trans ((g.serve v).client_run b)

/-! ### Readiness -/

/-- In a gateway that has been set up, nothing is missing for a request for a token in the mode for
a caller. -/
lemma Gateway.unhindered_of_withGrants {c : Configuration} {registry : Registry} {g : Gateway}
    {cache : GrantCache} (h : withGrants c registry = .ok (g, cache)) {caller : Caller}
    {mode : AuthMode} (hfor : g.settings.modeFor caller = .ok mode) {t : GrantedTokens}
    (ht : t.cache.client = cache.client) :
    (t.acquisition g.settings.endpoint mode).Unhindered cache.client := by
  obtain ⟨hclient, hsettings, -⟩ := of_withGrants_eq_ok h
  -- the mode is the configured one, and then the secret that it needs is there
  have hkind : mode.kind = c.authMode :=
    (ConnectionSettings.kind_of_modeFor hfor).trans
      (Configuration.of_connectionSettings_eq_ok hsettings).1
  have hform : ∃ form, cache.client.form g.settings.endpoint mode = .ok form := by
    cases hmade : cache.client.form g.settings.endpoint mode with
    | ok form => exact ⟨form, rfl⟩
    | error e =>
      obtain ⟨hnone, hneeds⟩ :=
        (cache.client.exists_form_eq_error g.settings.endpoint mode).mp ⟨e, hmade⟩
      have hservice := Configuration.of_grantClient_eq_ok hclient hnone
      exact absurd (hkind.trans hservice) hneeds
  obtain ⟨form, hmade⟩ := hform
  rw [← ht] at hmade ⊢
  exact (t.arises_acquisition g.settings.endpoint mode).unhindered hmade

/-- That with the settings of a gateway no later call meets one that is missing. -/
structure Gateway.Ready (c : Configuration) (g : Gateway) (client : GrantClient) : Prop where
  /-- The mode is missing only for a caller without a token, if access is on behalf of callers. -/
  mode : ∀ caller e, g.settings.modeFor caller = .error e ↔
    c.authMode = .delegated ∧ caller.bearerToken = none ∧
      e = .unauthorized "delegated access requires the caller's bearer token"
  /-- Nothing is missing for the requests for tokens of a manager's operation, and it leaves the
  client as it is. -/
  calls : ∀ (k : RecordKind) (m : Manager k.Data), g.manager k = .ok m →
    ∀ (call : ManagerCall k.Data k.Patch) (scope : RequestScope) (b : Backend GrantedTokens),
      b.tokens.cache.client = client →
        (∀ a ∈ ((m.perform call).inScope scope).acquisitions b, a.Unhindered client) ∧
          ((m.perform call).outcome scope b).1.tokens.cache.client = client
  /-- Nothing is missing for the requests for tokens of visits. -/
  visits : ∀ (b : Backend GrantedTokens) (visits : List Visit), b.tokens.cache.client = client →
    ∀ p ∈ g.serveAll b visits, ∀ a ∈ p.acquisitions g, a.Unhindered client
  /-- A query may ask for one row at least. -/
  pageSize : 1 ≤ c.maxPageSize
  /-- A query for the first rows is refused only if the query for all rows is. -/
  pages : ∀ (k : RecordKind) (m : Manager k.Data), g.manager k = .ok m →
    ∀ (request : QueryRequest) (top : Int64), request.skip = none → request.top = some top →
      0 < top.toInt → top.toInt ≤ (c.maxPageSize.toNat : Int) →
        pageOf m.maxPageSize request.skip request.top =
            .ok (some ⟨.ofNat top.toInt.toNat, 1⟩) ∧
          request.compile m.mapper.toResolver m.maxPageSize m.logicalName =
            (NativeQuery.onto · ⟨.ofNat top.toInt.toNat, 1⟩) <$>
              { request with top := none }.compile m.mapper.toResolver m.maxPageSize m.logicalName

/-- **A gateway that has been set up is ready.**  If a gateway and its token source can be set up,
then whatever calls follow and whatever the identity provider replies, none of them meets a setting
that is missing. -/
theorem Gateway.ready_of_withGrants {c : Configuration} {registry : Registry} {g : Gateway}
    {cache : GrantCache} (h : withGrants c registry = .ok (g, cache)) :
    g.Ready c cache.client := by
  obtain ⟨-, hsettings, hpage⟩ := of_withGrants_eq_ok h
  obtain ⟨hmode, hpos, hidentity⟩ := Configuration.of_connectionSettings_eq_ok hsettings
  constructor
  case mode =>
    intro caller e
    rw [ConnectionSettings.modeFor_eq_error, ← hmode]
    constructor
    · rintro (hdelegated | ⟨hservice, hnone, -⟩)
      · exact hdelegated
      · exact absurd hnone (hidentity hservice)
    · exact .inl
  case calls =>
    intro k m hm call scope b hb
    refine ⟨?_, (((m.perform call).inScope scope).client_run b).trans hb⟩
    intro a ha
    have hfirst := m.opensFirst_perform call
    rw [(of_manager_eq_ok hm).1] at hfirst
    obtain ⟨mode, hfor, rfl⟩ := hfirst.of_mem_acquisitions ha
    exact unhindered_of_withGrants h hfor hb
  case visits =>
    intro b visits hb p hp a ha
    have hclient := (client_of_mem_serveAll hp).trans hb
    rcases p.cases_of_serve g with ⟨hturns, -⟩ | ⟨mode, hfor, hacquisitions, -⟩
    · have hnil : p.acquisitions g = [] := congrArg (List.filterMap Turn.acquisition?) hturns
      rw [hnil] at ha
      cases ha
    · rw [hacquisitions] at ha
      obtain rfl := List.mem_singleton.mp ha
      exact unhindered_of_withGrants h hfor hclient
  case pageSize => exact UInt32.le_iff_toNat_le.mpr hpos
  case pages =>
    intro k m hm request top hskip htop hfirst hle
    rw [← hpage, ← (of_manager_eq_ok hm).2] at hle
    refine ⟨?_, QueryRequest.compile_first hskip htop hfirst hle⟩
    rw [hskip, htop]
    exact pageOf_first hfirst hle

/-! ### A gateway with a service account -/

namespace ServiceGateway

/-- Settings for access with a service account, which needs no secret of the client. -/
def configuration : Configuration :=
  { Configuration.standard with
    endpoint := "https://org.crm.example.com"
    clientId := "client"
    authMode := .serviceIdentity
    serviceIdentity := some ⟨"svc", "pw"⟩ }

/-- The client that requests tokens. -/
def client : GrantClient where
  tokenUrl := ⟨.https, "", .domain "login.microsoftonline.com", none,
    ["common", "oauth2", "v2.0", "token"], none, none⟩
  clientId := "client"
  clientSecret := none

/-- The gateway, which serves companies. -/
def gateway : Gateway where
  settings := {
    endpoint := SharedToken.endpoint
    authMode := .serviceIdentity
    serviceIdentity := some ⟨"svc", "pw"⟩ }
  registry := Registry.empty.set (k := .account) ⟨Account.logicalName, Account.mapper⟩
  maxPageSize := 5000

/-- The gateway is set up from these settings, and so it is ready. -/
theorem ready_gateway :
    Gateway.withGrants configuration gateway.registry = .ok (gateway, .ofClient client) ∧
      gateway.Ready configuration client := by
  have hclient : configuration.grantClient = .ok client := by decide +kernel
  have hsettings : configuration.connectionSettings = .ok gateway.settings := by decide +kernel
  have hsetup : Gateway.withGrants configuration gateway.registry =
      .ok (gateway, .ofClient client) := by
    unfold Gateway.withGrants Gateway.ofConfiguration
    rw [hclient, hsettings]
    rfl
  exact ⟨hsetup, Gateway.ready_of_withGrants hsetup⟩

end ServiceGateway

end RecordGateway
