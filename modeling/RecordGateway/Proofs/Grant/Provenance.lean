import RecordGateway.Proofs.Grant.Ledger

/-!
# Where tokens come from

Tokens are kept for a mode and an endpoint, and not for the account that they were requested for.
So every token that a request is given was issued in answer to the form that this request produces,
except that the kept token of a service account also serves a request for another one, which has
the same endpoint, and with it the same scope and the same grant.
-/

namespace RecordGateway

/-- Whether a request has sent a form, and no other one, and was given a token in answer to it. -/
def Acquisition.WasIssued (a : Acquisition) (client : GrantClient) (form : Form)
    (token : AccessToken) : Prop :=
  a.forms = [form] ∧
    ∃ lifetime, a.exchange.reply.result client.tokenUrl = .ok ⟨token, lifetime⟩

/-- Whether every token was issued in answer to the form that its own request produces. -/
def TokensAreOwn (client : GrantClient) (ledger : List Acquisition) : Prop :=
  ∀ before a after, ledger = before ++ a :: after → ∀ token, a.result = .ok token →
    ∃ form, client.form a.endpoint a.mode = .ok form ∧
      ∃ b ∈ before ++ [a], b.WasIssued client form token

/-- Whether every token was issued to the same mode for the same endpoint, to the form that its own
request produces, or to the one that a request for another service account produces; in this case
the request has not sent a form itself. -/
def TokensAreOwnOrShared (client : GrantClient) (ledger : List Acquisition) : Prop :=
  ∀ before a after, ledger = before ++ a :: after → ∀ token, a.result = .ok token →
    ∃ b ∈ before ++ [a], ∃ form, client.form a.endpoint b.mode = .ok form ∧
      b.WasIssued client form token ∧
      (b.mode = a.mode ∨ (a.form? = none ∧ ∃ username password username' password',
        a.mode = .serviceIdentity username password ∧
          b.mode = .serviceIdentity username' password'))

/-- A cache whose tokens were all issued to requests with their keys. -/
structure Backed (client : GrantClient) (ledger : List Acquisition) (g : GrantCache) : Prop where
  client_eq : g.client = client
  issued : ∀ k kept, (k, kept) ∈ g.kept → ∃ b ∈ ledger, GrantCache.key b.endpoint b.mode = k ∧
    ∃ form, client.form b.endpoint b.mode = .ok form ∧ b.WasIssued client form kept.token

/-! ### Forms -/

/-- The form depends on the endpoint through its text without the slashes at its end. -/
lemma GrantClient.form_congr (client : GrantClient) {endpoint endpoint' : Url}
    (h : endpoint.trimmedText = endpoint'.trimmedText) (mode : AuthMode) :
    client.form endpoint mode = client.form endpoint' mode := by
  unfold form
  rw [h]

/-- Two modes that are kept under one key are equal, or those of two service accounts. -/
lemma AuthMode.eq_or_accounts_of_kind_eq {mode mode' : AuthMode} (h : mode'.kind = mode.kind)
    (hkeeps : GrantCache.keeps mode.kind = true) :
    mode' = mode ∨ ∃ username password username' password',
      mode = .serviceIdentity username password ∧ mode' = .serviceIdentity username' password' := by
  cases mode with
  | delegated assertion => cases hkeeps
  | serviceIdentity username password =>
    cases mode' with
    | serviceIdentity username' password' =>
      exact .inr ⟨username, password, username', password', rfl, rfl⟩
    | _ => cases h
  | application =>
    cases mode' with
    | application => exact .inl rfl
    | _ => cases h

/-! ### Runs -/

/-- Every request leaves a cache whose tokens were issued to requests with their keys. -/
lemma Backed.arises {client : GrantClient} {ledger : List Acquisition} {g g' : GrantCache}
    {a : Acquisition} (h : Backed client ledger g) (harises : g.Arises a g') :
    Backed client (ledger ++ [a]) g' := by
  have holder (k : TokenKey) (kept : KeptToken) (hmem : (k, kept) ∈ g.kept) :
      ∃ b ∈ ledger ++ [a], GrantCache.key b.endpoint b.mode = k ∧
        ∃ form, client.form b.endpoint b.mode = .ok form ∧
          b.WasIssued client form kept.token := by
    obtain ⟨b, hb, hissued⟩ := h.issued k kept hmem
    exact ⟨b, List.mem_append_left _ hb, hissued⟩
  obtain ⟨rfl, -⟩ := h
  cases harises with
  | served _ => exact ⟨rfl, holder⟩
  | refused _ _ => exact ⟨rfl, holder⟩
  | failed _ _ _ => exact ⟨rfl, holder⟩
  | @issued endpoint mode exchange form issued _ hform hreply =>
    refine ⟨GrantCache.accept_client issued, fun k kept hmem => ?_⟩
    rcases GrantCache.mem_kept_accept hmem with hold | ⟨rfl, htoken⟩
    · exact holder k kept hold
    · refine ⟨_, List.mem_append_right _ (List.mem_singleton_self _), rfl, form, hform, rfl,
        issued.lifetime, ?_⟩
      rw [htoken]
      exact hreply

/-- Before every request of a run the tokens that are kept are those of earlier requests. -/
lemma backed_before {client : GrantClient} {exchanges : List Exchange}
    {calls : List (Url × AuthMode)} {before after : List Acquisition} {a : Acquisition}
    (h : (GrantedTokens.ofClient client exchanges).ledger calls = before ++ a :: after) :
    ∃ g g', Backed client before g ∧ g.Arises a g' := by
  have hempty : Backed client [] (GrantedTokens.ofClient client exchanges).cache :=
    ⟨rfl, fun _ _ hmem => absurd hmem List.not_mem_nil⟩
  exact GrantedTokens.ledger_induction (fun _ _ _ _ => Backed.arises) hempty h

/-- A token comes from the reply to the request itself, or from an earlier one with the same key. -/
lemma Backed.exists_wasIssued {client : GrantClient} {before : List Acquisition}
    {g g' : GrantCache} {a : Acquisition} {token : AccessToken} (h : Backed client before g)
    (harises : g.Arises a g') (htoken : a.result = .ok token) :
    ∃ b ∈ before ++ [a], ∃ form, client.form a.endpoint b.mode = .ok form ∧
      b.WasIssued client form token ∧
      (b.mode = a.mode ∨ (a.form? = none ∧ ∃ username password username' password',
        a.mode = .serviceIdentity username password ∧
          b.mode = .serviceIdentity username' password')) := by
  obtain ⟨rfl, hissued⟩ := h
  cases harises with
  | @served endpoint mode exchange token' hserving =>
    -- the request that the token was issued to has the same key
    obtain rfl := Except.ok.inj htoken
    obtain ⟨hkeeps, expiresAt, hmem⟩ := GrantCache.mem_kept_of_serving? hserving
    obtain ⟨b, hb, hkey, form, hform, hwas⟩ := hissued _ _ hmem
    obtain ⟨hkind, htext⟩ := Prod.mk.inj hkey
    refine ⟨b, List.mem_append_left _ hb, form, ?_, hwas, ?_⟩
    · exact (g.client.form_congr htext b.mode).symm.trans hform
    · exact (AuthMode.eq_or_accounts_of_kind_eq hkind hkeeps).imp_right fun h => ⟨rfl, h⟩
  | refused _ _ => cases htoken
  | failed _ _ _ => cases htoken
  | @issued endpoint mode exchange form issued _ hform hreply =>
    obtain rfl := Except.ok.inj htoken
    exact ⟨_, List.mem_append_right _ (List.mem_singleton_self _), form, hform,
      ⟨rfl, issued.lifetime, hreply⟩, .inl rfl⟩

/-- If all requests for service accounts are for the same one, every token is issued in answer to
the form that its own request produces. -/
theorem tokensAreOwn_of_oneAccount (client : GrantClient) (exchanges : List Exchange)
    {calls : List (Url × AuthMode)} {username password : String}
    (hcalls : ∀ call ∈ calls, call.2.kind = .serviceIdentity →
      call.2 = .serviceIdentity username password) :
    TokensAreOwn client ((GrantedTokens.ofClient client exchanges).ledger calls) := by
  intro before a after hledger token htoken
  obtain ⟨g, g', hbacked, harises⟩ := backed_before hledger
  obtain ⟨b, hb, form, hform, hwas, hmode⟩ := hbacked.exists_wasIssued harises htoken
  have hmodes : ∀ b ∈ before ++ a :: after, b.mode.kind = .serviceIdentity →
      b.mode = .serviceIdentity username password := by
    rw [← hledger]
    intro b hb
    have hcall := List.mem_map_of_mem (f := fun a : Acquisition => (a.endpoint, a.mode)) hb
    rw [GrantedTokens.map_ledger] at hcall
    exact hcalls _ hcall
  rcases hmode with hmode | ⟨-, _, _, _, _, ha, hb'⟩
  · exact ⟨form, hmode ▸ hform, b, hb, hwas⟩
  · have hmema : a ∈ before ++ a :: after := by simp
    have hmemb : b ∈ before ++ a :: after := by
      rw [List.append_cons]
      exact List.mem_append_left _ hb
    have hsame : b.mode = a.mode :=
      (hmodes b hmemb (congrArg AuthMode.kind hb')).trans
        (hmodes a hmema (congrArg AuthMode.kind ha)).symm
    exact ⟨form, hsame ▸ hform, b, hb, hwas⟩

/-- **The provenance of tokens.**  Of the tokens that some requests are given one after the other,
whatever the provider replies and at whatever times, each one was issued in answer to the form that
its own request produces, or it is the kept token of a service account and its request is one for
another service account with the same endpoint. -/
theorem tokensAreOwnOrShared_ledger (client : GrantClient) (exchanges : List Exchange)
    (calls : List (Url × AuthMode)) :
    TokensAreOwnOrShared client ((GrantedTokens.ofClient client exchanges).ledger calls) := by
  intro before a after hledger token htoken
  obtain ⟨g, g', hbacked, harises⟩ := backed_before hledger
  exact hbacked.exists_wasIssued harises htoken

/-! ### A shared token -/

namespace SharedToken

/-- An endpoint of a store. -/
def endpoint : Url :=
  ⟨.https, "", .domain "org.crm.example.com", none, [""], none, none⟩

/-- A client of an identity provider. -/
def client : GrantClient :=
  ⟨⟨.https, "", .domain "login.example.com", none, ["token"], none, none⟩, "client", some "s3cret"⟩

/-- A reply with a token that is valid for an hour, right after the request. -/
def exchange : Exchange :=
  ⟨⟨0⟩, ⟨0⟩, .answered 200 "\x7b\"access_token\":\"t-alice\",\"expires_in\":3600\x7d"⟩

/-- The source of the client's tokens; the provider replies to one request only. -/
def source : GrantedTokens :=
  .ofClient client [exchange]

/-- Two requests, each for a service account of its own. -/
def calls : List (Url × AuthMode) :=
  [(endpoint, .serviceIdentity "alice" "pw-a"), (endpoint, .serviceIdentity "bob" "pw-b")]

/-- What becomes of the first request. -/
def alice : Acquisition :=
  source.acquisition endpoint (.serviceIdentity "alice" "pw-a")

/-- What becomes of the second request. -/
def bob : Acquisition :=
  (TokenSource.acquire source endpoint (.serviceIdentity "alice" "pw-a")).1.acquisition endpoint
    (.serviceIdentity "bob" "pw-b")

/-- The second account is given the token of the first one, and no form of its own was sent. -/
theorem not_tokensAreOwn_ledger : ¬ TokensAreOwn client (source.ledger calls) := by
  intro h
  have htoken : bob.result.toOption = some ⟨"t-alice"⟩ := by decide +kernel
  have hforms : ∀ b ∈ [alice, bob],
      b.forms ≠ (client.form bob.endpoint bob.mode).toOption.toList := by
    decide +kernel
  cases hresult : bob.result with
  | error e =>
    rw [hresult] at htoken
    cases htoken
  | ok token =>
    obtain ⟨form, hform, b, hb, hsent, -⟩ := h [alice] bob [] rfl token hresult
    refine hforms b hb ?_
    rw [hform, hsent]
    rfl

end SharedToken

end RecordGateway
