import Mathlib.Data.List.Nodup
import RecordGateway.Gateway
import RecordGateway.Proofs.Grant.Provenance
import RecordGateway.Proofs.Records.Openings
import RecordGateway.Proofs.Script.Tokens

/-!
# Access on behalf of callers

Callers visit a gateway one after the other; they share its store and its token source.  In
delegated mode a visit asks for at most one token, with the caller's own token as the assertion, and
uses no other token than the one that it is given.  Tokens on behalf of callers are not kept, so
that token was issued in answer to a form that this very visit has sent.
-/

namespace RecordGateway

/-! ### Visits -/

/-- A call of a client of records. -/
inductive ClientCall (D P : Type) where
  | manage (call : ManagerCall D P)
  | undelete (idText : String)

/-- What a client returns that is called. -/
abbrev ClientCall.Result {D P : Type} : ClientCall D P → Type
  | manage call => call.Result
  | undelete _ => D

/-- What a client does that is called. -/
def RecordsClient.perform {D P : Type} [DataObject D P] (c : RecordsClient D) (caller : Caller) :
    (call : ClientCall D P) → Script (Except ClientError call.Result)
  | .manage (.insert data fresh) => c.insert caller data fresh
  | .manage (.lookup idText) => c.lookup caller idText
  | .manage (.query request) => c.query caller request
  | .manage (.replace idText data) => c.replace caller idText data
  | .manage (.patch idText update) => c.patch caller idText update
  | .manage (.delete idText) => c.delete caller idText
  | .undelete idText => c.undelete caller idText

/-- A caller's call to the client of a kind of records. -/
structure Visit where
  kind : RecordKind
  caller : Caller
  call : ClientCall kind.Data kind.Patch

/-- What a gateway does for a visit; it fails if the kind is not registered. -/
def Gateway.serve (g : Gateway) (v : Visit) :
    Script (Except RegistryError (Except ClientError v.call.Result)) :=
  match g.client v.kind with
  | .error e => .done (.error e)
  | .ok c => .ok <$> c.perform v.caller v.call

/-- A visit, with the backend that it finds. -/
structure Passage where
  visit : Visit
  backend : Backend GrantedTokens

/-- Visits to a gateway that take place one after the other. -/
def Gateway.serveAll (g : Gateway) : Backend GrantedTokens → List Visit → List Passage
  | _, [] => []
  | b, v :: visits => ⟨v, b⟩ :: g.serveAll ((g.serve v).run Backend.answer b).1 visits

namespace Passage

variable (g : Gateway) (p : Passage)

/-- The turns of a visit. -/
def turns : List (Turn GrantedTokens) :=
  (g.serve p.visit).turns p.backend

/-- The backend that a visit leaves. -/
def left : Backend GrantedTokens :=
  ((g.serve p.visit).run Backend.answer p.backend).1

/-- The tokens with which sessions are asked for during a visit. -/
def presented : List AccessToken :=
  (g.serve p.visit).presented p.backend

/-- What becomes of the requests for tokens during a visit. -/
def acquisitions : List Acquisition :=
  (g.serve p.visit).acquisitions p.backend

/-- The tokens that are obtained during a visit. -/
def granted : List AccessToken :=
  (p.acquisitions g).filterMap (·.result.toOption)

end Passage

/-- Whether a form requests a token on behalf of the caller whose own token is the assertion. -/
def OnBehalfOf (assertion : String) (form : Form) : Prop :=
  form.lookup "grant_type" = some onBehalfOfGrant ∧
    form.lookup "requested_token_use" = some "on_behalf_of" ∧
    form.lookup "assertion" = some assertion

/-- The form of a request in delegated mode is on behalf of the caller. -/
lemma GrantClient.onBehalfOf_form {client : GrantClient} {endpoint : Url} {assertion : String}
    {form : Form} (h : client.form endpoint (.delegated assertion) = .ok form) :
    OnBehalfOf assertion form := by
  unfold GrantClient.form at h
  cases hsecret : client.secretFor .delegated with
  | error e =>
    rw [hsecret] at h
    cases h
  | ok secret =>
    rw [hsecret] at h
    obtain rfl := Except.ok.inj h
    exact ⟨rfl, rfl, rfl⟩

/-- In delegated mode a token that is obtained was issued in answer to a form sent at once. -/
lemma GrantedTokens.wasIssued_of_delegated {t : GrantedTokens} {endpoint : Url}
    {assertion : String} {token : AccessToken}
    (h : (t.acquisition endpoint (.delegated assertion)).result = .ok token) :
    ∃ form, OnBehalfOf assertion form ∧
      (t.acquisition endpoint (.delegated assertion)).WasIssued t.cache.client form token := by
  have harises := t.arises_acquisition endpoint (.delegated assertion)
  have hmode : (t.acquisition endpoint (.delegated assertion)).mode = .delegated assertion := rfl
  generalize t.acquisition endpoint (.delegated assertion) = a at h hmode harises ⊢
  generalize (TokenSource.acquire t endpoint (.delegated assertion)).1.cache = kept at harises
  cases harises with
  | served hserving =>
    -- no token is kept that could serve
    obtain rfl : _ = AuthMode.delegated assertion := hmode
    cases hserving
  | refused _ _ => cases h
  | failed _ _ _ => cases h
  | @issued _ _ _ form issued _ hform hreply =>
    obtain rfl : _ = AuthMode.delegated assertion := hmode
    obtain rfl : issued.token = token := Except.ok.inj h
    exact ⟨form, GrantClient.onBehalfOf_form hform, rfl, issued.lifetime, hreply⟩

/-! ### The turns of a visit -/

/-- A function of the result takes no turns. -/
lemma Script.turns_map {S α β : Type} [TokenSource S] (f : α → β) (x : Script α) (b : Backend S) :
    (f <$> x).turns b = x.turns b := by
  rw [← bind_pure_comp, turns_bind]
  exact List.append_nil _

/-- A call in a scope of its own takes the turns of its operation. -/
lemma RecordsClient.turns_call {S α : Type} [TokenSource S] (caller : Caller) (x : Operation α)
    (b : Backend S) : (call caller x).turns b = (x.inScope (.ofCaller caller)).turns b := by
  unfold call
  rw [Script.turns_bind]
  exact List.append_nil _

/-- What a client does that is called is an operation in a new scope, which opens a session first
if it needs one. -/
lemma RecordsClient.exists_opensFirst {D P : Type} [DataObject D P] (c : RecordsClient D)
    (caller : Caller) (call : ClientCall D P) :
    ∃ x : Operation call.Result, x.OpensFirst c.manager.settings ∧
      c.perform caller call = RecordsClient.call caller x := by
  cases call with
  | manage call =>
    refine ⟨c.manager.perform call, c.manager.opensFirst_perform call, ?_⟩
    cases call <;> rfl
  | undelete idText => exact ⟨c.manager.undelete idText, .ofResult (.error _), rfl⟩

/-- The managers of a gateway share its settings. -/
lemma Gateway.of_manager_eq_ok {g : Gateway} {k : RecordKind} {m : Manager k.Data}
    (h : g.manager k = .ok m) : m.settings = g.settings ∧ m.maxPageSize = g.maxPageSize := by
  unfold manager at h
  cases hregistration : g.registry.resolve k with
  | error e =>
    rw [hregistration] at h
    cases h
  | ok registration =>
    rw [hregistration] at h
    obtain rfl := Except.ok.inj h
    exact ⟨rfl, rfl⟩

/-- The clients of a gateway share its settings. -/
lemma Gateway.settings_of_client {g : Gateway} {k : RecordKind} {c : RecordsClient k.Data}
    (h : g.client k = .ok c) : c.manager.settings = g.settings := by
  unfold client at h
  cases hmanager : g.manager k with
  | error e =>
    rw [hmanager] at h
    cases h
  | ok m =>
    rw [hmanager] at h
    obtain rfl := Except.ok.inj h
    exact (of_manager_eq_ok hmanager).1

/-- A visit takes no turn, or it is an operation in a new scope of its caller. -/
lemma Gateway.turns_serve (g : Gateway) (v : Visit) (b : Backend GrantedTokens) :
    (g.serve v).turns b = [] ∨ ∃ (α : Type) (x : Operation α), x.OpensFirst g.settings ∧
      (g.serve v).turns b = (x.inScope (.ofCaller v.caller)).turns b := by
  unfold serve
  cases hclient : g.client v.kind with
  | error e => exact .inl rfl
  | ok c =>
    obtain ⟨x, hx, hperform⟩ := c.exists_opensFirst v.caller v.call
    refine .inr ⟨_, x, settings_of_client hclient ▸ hx, ?_⟩
    dsimp only
    rw [Script.turns_map, hperform, RecordsClient.turns_call]

namespace Passage

/-- What a visit does to obtain a token and a session: nothing, and then it leaves the backend as it
is; or it asks for one token, in the mode for its caller, and for at most one session, with that
token. -/
theorem cases_of_serve (g : Gateway) (p : Passage) :
    (p.turns g = [] ∧ p.left g = p.backend) ∨
      ∃ mode, g.settings.modeFor p.visit.caller = .ok mode ∧
        p.acquisitions g = [p.backend.tokens.acquisition g.settings.endpoint mode] ∧
        (p.presented g = [] ∨ ∃ token, p.presented g = [token] ∧
          (p.backend.tokens.acquisition g.settings.endpoint mode).result = .ok token) := by
  have hnone (h : p.turns g = []) : p.turns g = [] ∧ p.left g = p.backend :=
    ⟨h, Script.run_of_turns_eq_nil h⟩
  rcases g.turns_serve p.visit p.backend with hturns | ⟨α, x, hx, hturns⟩
  · exact .inl (hnone hturns)
  rcases hx.turns_cases p.visit.caller p.backend with hnil | ⟨mode, rest, hmode, hfirst, hrest⟩
  · exact .inl (hnone (hturns.trans hnil))
  refine .inr ⟨mode, hmode, ?_⟩
  unfold acquisitions presented Script.acquisitions Script.presented
  rw [hturns, hfirst]
  rcases hrest with rfl | ⟨token, calls, htoken, rfl, hcalls⟩
  · exact ⟨rfl, .inl rfl⟩
  · have hacquisitions : calls.filterMap Turn.acquisition? = [] :=
      List.filterMap_eq_nil_iff.mpr fun t ht => Turn.acquisition?_eq_none (hcalls t ht)
    have hpresented : calls.filterMap (·.request.presented?) = [] :=
      List.filterMap_eq_nil_iff.mpr fun t ht => Request.presented?_eq_none (hcalls t ht)
    exact ⟨congrArg (_ :: ·) hacquisitions, .inr ⟨token, congrArg (token :: ·) hpresented, htoken⟩⟩

end Passage

/-! ### Callers are kept apart -/

/-- Whether a token was issued during a visit, in answer to a form that this visit has sent on
behalf of its caller, with the caller's own token as the assertion. -/
def Passage.IssuedFor (g : Gateway) (p : Passage) (token : AccessToken) : Prop :=
  ∃ assertion form, p.visit.caller.bearerToken = some assertion ∧ OnBehalfOf assertion form ∧
    ∃ a ∈ p.acquisitions g, a.WasIssued p.backend.tokens.cache.client form token

/-- That no caller's access is used for another one, in visits that take place one after the
other. -/
structure KeepsCallersApart (g : Gateway) (start : Backend GrantedTokens)
    (run : List Passage) : Prop where
  /-- A visit asks for at most one session, with a token that was issued for this visit. -/
  own : ∀ p ∈ run, (p.presented g).length ≤ 1 ∧ ∀ token ∈ p.presented g, p.IssuedFor g token
  /-- The sessions that the store opens during a visit are those that it is asked for. -/
  seen : ∀ p ∈ run, ∃ opened : List AccessToken, opened.Sublist (p.presented g) ∧
    (p.left g).store.tokensSeen = p.backend.store.tokensSeen ++ opened.map AccessToken.secret
  /-- A visit of a caller without a token asks for nothing and changes nothing. -/
  silent : ∀ p ∈ run, p.visit.caller.bearerToken = none →
    p.turns g = [] ∧ p.left g = p.backend
  /-- The replies of the token endpoint are taken in order, so that no two visits share one. -/
  answered : (run.flatMap (·.acquisitions g)).map Acquisition.exchange =
    (List.range (run.flatMap (·.acquisitions g)).length).map
      (start.tokens.exchanges.getD · .unreachable)
  /-- Whatever token a visit obtains was issued for this visit. -/
  granted : ∀ p ∈ run, ∀ token ∈ p.granted g, p.IssuedFor g token
  /-- If no token is obtained twice, no visit uses a token of another one. -/
  apart : (run.flatMap (·.granted g)).Nodup → ∀ (i j : Nat) (p q : Passage), run[i]? = some p →
    run[j]? = some q → ∀ token ∈ p.granted g, token ∈ q.presented g → i = j

/-- In delegated mode a token is asked for with the caller's own token. -/
lemma ConnectionSettings.eq_delegated_of_modeFor {settings : ConnectionSettings} {caller : Caller}
    {mode : AuthMode} (hsettings : settings.authMode = .delegated)
    (h : settings.modeFor caller = .ok mode) :
    ∃ assertion, caller.bearerToken = some assertion ∧ mode = .delegated assertion := by
  unfold modeFor at h
  rw [hsettings] at h
  cases hbearer : caller.bearerToken with
  | none =>
    rw [hbearer] at h
    cases h
  | some assertion =>
    rw [hbearer] at h
    exact ⟨assertion, rfl, (Except.ok.inj h).symm⟩

/-- Visits take the replies of the token endpoint in order, each one once. -/
lemma Gateway.exchanges_serveAll (g : Gateway) (b : Backend GrantedTokens) (visits : List Visit) :
    ((g.serveAll b visits).flatMap (·.acquisitions g)).map Acquisition.exchange =
      (List.range ((g.serveAll b visits).flatMap (·.acquisitions g)).length).map
        (b.tokens.exchanges.getD · .unreachable) := by
  induction visits generalizing b with
  | nil => rfl
  | cons v visits ih =>
    obtain ⟨hleft, htaken⟩ := (g.serve v).exchanges_run b
    have hrest := ih ((g.serve v).run Backend.answer b).1
    rw [hleft] at hrest
    rw [serveAll, List.flatMap_cons]
    exact map_exchange_append htaken hrest

namespace Passage

variable {g : Gateway} {p : Passage}

/-- In delegated mode every token that a visit obtains was issued for it. -/
lemma issuedFor_of_mem_granted (hmode : g.settings.authMode = .delegated) {token : AccessToken}
    (h : token ∈ p.granted g) : p.IssuedFor g token := by
  obtain ⟨a, ha, htoken⟩ := List.mem_filterMap.mp h
  have hresult : a.result = .ok token := by
    cases hresult : a.result with
    | ok t =>
      rw [hresult] at htoken
      exact congrArg Except.ok (Option.some.inj htoken)
    | error e =>
      rw [hresult] at htoken
      cases htoken
  rcases p.cases_of_serve g with ⟨hturns, -⟩ | ⟨mode, hfor, hacquisitions, -⟩
  · have hnil : p.acquisitions g = [] := congrArg (List.filterMap Turn.acquisition?) hturns
    rw [hnil] at ha
    cases ha
  · obtain ⟨assertion, hbearer, rfl⟩ := ConnectionSettings.eq_delegated_of_modeFor hmode hfor
    obtain rfl := List.mem_singleton.mp (hacquisitions ▸ ha)
    obtain ⟨form, hform, hissued⟩ := GrantedTokens.wasIssued_of_delegated hresult
    exact ⟨assertion, form, hbearer, hform, _, ha, hissued⟩

/-- A visit asks for at most one session, and with a token that it has obtained. -/
lemma presented_subset_granted (g : Gateway) (p : Passage) :
    (p.presented g).length ≤ 1 ∧ (p.presented g).Subset (p.granted g) := by
  rcases p.cases_of_serve g with ⟨hturns, -⟩ | ⟨mode, -, hacquisitions, hnil | ⟨token, hone, h⟩⟩
  · have hnil : p.presented g = [] :=
      congrArg (List.filterMap fun t : Turn GrantedTokens => t.request.presented?) hturns
    rw [hnil]
    exact ⟨Nat.zero_le _, List.nil_subset _⟩
  · rw [hnil]
    exact ⟨Nat.zero_le _, List.nil_subset _⟩
  · have hgranted : p.granted g = [token] := by
      rw [granted, hacquisitions]
      simp only [List.filterMap_cons, h, Except.toOption, List.filterMap_nil]
    rw [hone, hgranted]
    exact ⟨Nat.le_refl 1, List.Subset.refl _⟩

/-- Without a token of the caller a visit reaches nothing. -/
lemma silent_of_delegated (hmode : g.settings.authMode = .delegated)
    (hnone : p.visit.caller.bearerToken = none) : p.turns g = [] ∧ p.left g = p.backend := by
  rcases p.cases_of_serve g with hsilent | ⟨mode, hfor, -⟩
  · exact hsilent
  · obtain ⟨assertion, hbearer, -⟩ := ConnectionSettings.eq_delegated_of_modeFor hmode hfor
    rw [hnone] at hbearer
    cases hbearer

/-- If no token is obtained twice, two visits have none in common. -/
lemma eq_of_mem_granted {run : List Passage} (hnodup : (run.flatMap (·.granted g)).Nodup)
    {i j : Nat} {p q : Passage} (hp : run[i]? = some p) (hq : run[j]? = some q)
    {token : AccessToken} (htoken : token ∈ p.granted g) (htoken' : token ∈ q.granted g) :
    i = j := by
  obtain ⟨hi, rfl⟩ := List.getElem?_eq_some_iff.mp hp
  obtain ⟨hj, rfl⟩ := List.getElem?_eq_some_iff.mp hq
  have hdisjoint := List.pairwise_iff_getElem.mp (List.nodup_flatMap.mp hnodup).2
  rcases Nat.lt_trichotomy i j with hlt | heq | hlt
  · exact (hdisjoint i j hi hj hlt htoken htoken').elim
  · exact heq
  · exact (hdisjoint j i hj hi hlt htoken' htoken).elim

end Passage

/-- **Delegated access never crosses callers.**  In delegated mode, whatever callers do one after
the other and whatever the token endpoint replies, each session is opened with the token that was
issued for this very call, in answer to a request with the caller's own token as the assertion; and
a caller without a token reaches nothing. -/
theorem Gateway.keepsCallersApart_serveAll (g : Gateway) (b : Backend GrantedTokens)
    (visits : List Visit) (hmode : g.settings.authMode = .delegated) :
    KeepsCallersApart g b (g.serveAll b visits) where
  own p _ := ⟨(p.presented_subset_granted g).1, fun _ htoken =>
    Passage.issuedFor_of_mem_granted hmode ((p.presented_subset_granted g).2 htoken)⟩
  seen p _ := (g.serve p.visit).tokensSeen_run p.backend
  silent _ _ hnone := Passage.silent_of_delegated hmode hnone
  answered := g.exchanges_serveAll b visits
  granted _ _ _ htoken := Passage.issuedFor_of_mem_granted hmode htoken
  apart hnodup _ _ _ q hp hq _ htoken hpresented :=
    Passage.eq_of_mem_granted hnodup hp hq htoken ((q.presented_subset_granted g).2 hpresented)

/-! ### Two callers and a stranger -/

namespace TwoCallers

/-- A gateway in delegated mode that serves companies. -/
def gateway : Gateway where
  settings := {
    endpoint := SharedToken.endpoint
    authMode := .delegated
    serviceIdentity := none }
  registry := Registry.empty.set (k := .account) ⟨Account.logicalName, Account.mapper⟩
  maxPageSize := 50

/-- A reply with a token. -/
def exchange (token : String) : Exchange :=
  ⟨⟨0⟩, ⟨0⟩, .answered 200 ("\x7b\"access_token\":\"" ++ token ++ "\",\"expires_in\":3600\x7d")⟩

/-- An empty store, and a token endpoint that issues two tokens. -/
def start : Backend GrantedTokens where
  store := .empty
  faults := []
  tokens := .ofClient SharedToken.client [exchange "t-alice", exchange "t-bob"]

/-- A look-up of a company by a caller with some token of his own or none. -/
def visit (bearerToken : Option String) : Visit where
  kind := .account
  caller := ⟨.nil, bearerToken⟩
  call := .manage (.lookup "00000000-0000-0000-0000-000000000001")

/-- A visit of a caller, a visit of one without a token, and a visit of another caller. -/
def run : List Passage :=
  gateway.serveAll start [visit (some "alice"), visit none, visit (some "bob")]

/-- The two callers use the tokens that were issued for them, and the stranger uses none. -/
theorem keepsCallersApart_run : KeepsCallersApart gateway start run ∧
    run.map (·.presented gateway) = [[⟨"t-alice"⟩], [], [⟨"t-bob"⟩]] :=
  ⟨Gateway.keepsCallersApart_serveAll gateway start _ rfl, by decide +kernel⟩

end TwoCallers

end RecordGateway
