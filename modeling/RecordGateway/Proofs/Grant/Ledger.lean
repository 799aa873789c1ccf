import Mathlib.Tactic.Lemma
import RecordGateway.Grant.Exchange

/-!
# The ledger of a token source

Requests for tokens that are made one after the other, each with what the outside contributed to it,
the forms that the provider has taken down meanwhile, and the result.  A request comes to one of
four ends: a kept token serves, the form cannot be made, the reply brings no token, or the reply
brings one.  Only the last one changes what is kept.
-/

namespace RecordGateway

/-- A request for a token, what the outside contributed to it, and what became of it. -/
@[ext]
structure Acquisition where
  endpoint : Url
  mode : AuthMode
  exchange : Exchange
  /-- The forms that the provider took down during the request. -/
  forms : List Form
  result : Except CredentialError AccessToken

/-- The form that was sent, if one was. -/
def Acquisition.form? (a : Acquisition) : Option Form := a.forms.head?

namespace GrantCache

/-- The kept token that serves a request made at a point in time. -/
def serving? (g : GrantCache) (now : Moment) (endpoint : Url) (mode : AuthMode) :
    Option AccessToken :=
  if keeps mode.kind then g.find? now (key endpoint mode) else none

/-- What is kept after a token has been issued at a point in time. -/
def accept (g : GrantCache) (now : Moment) (endpoint : Url) (mode : AuthMode)
    (issued : IssuedToken) : GrantCache :=
  if keeps mode.kind then g.keep (key endpoint mode) ⟨issued.token, expiry now issued.lifetime⟩
  else g

/-- What becomes of a request, and what is kept afterwards. -/
inductive Arises (g : GrantCache) : Acquisition → GrantCache → Prop
  | served {endpoint : Url} {mode : AuthMode} {exchange : Exchange} {token : AccessToken} :
      g.serving? exchange.asked endpoint mode = some token →
      Arises g ⟨endpoint, mode, exchange, [], .ok token⟩ g
  | refused {endpoint : Url} {mode : AuthMode} {exchange : Exchange} {e : CredentialError} :
      g.serving? exchange.asked endpoint mode = none → g.client.form endpoint mode = .error e →
      Arises g ⟨endpoint, mode, exchange, [], .error e⟩ g
  | failed {endpoint : Url} {mode : AuthMode} {exchange : Exchange} {form : Form}
      {e : CredentialError} :
      g.serving? exchange.asked endpoint mode = none → g.client.form endpoint mode = .ok form →
      exchange.reply.result g.client.tokenUrl = .error e →
      Arises g ⟨endpoint, mode, exchange, [form], .error e⟩ g
  | issued {endpoint : Url} {mode : AuthMode} {exchange : Exchange} {form : Form}
      {issued : IssuedToken} :
      g.serving? exchange.asked endpoint mode = none → g.client.form endpoint mode = .ok form →
      exchange.reply.result g.client.tokenUrl = .ok issued →
      Arises g ⟨endpoint, mode, exchange, [form], .ok issued.token⟩
        (g.accept exchange.replied endpoint mode issued)

section Cache

variable {g : GrantCache} {now : Moment} {endpoint : Url} {mode : AuthMode}

/-- What is kept after a token has been issued is kept by the same client. -/
@[simp] lemma accept_client (issued : IssuedToken) :
    (g.accept now endpoint mode issued).client = g.client := by
  unfold accept
  split <;> rfl

/-- A request for a token is served by a kept token, or its form is sent if it has one. -/
lemma start_eq : g.start now endpoint mode = match g.serving? now endpoint mode with
    | some token => .found token
    | none => match g.client.form endpoint mode with
      | .ok form => .send form
      | .error e => .refused e := rfl

/-- A reply without a token leaves what is kept as it is. -/
lemma finish_of_error {reply : TokenReply} {e : CredentialError}
    (h : reply.result g.client.tokenUrl = .error e) :
    g.finish now endpoint mode reply = (g, .error e) := by
  unfold finish
  rw [h]

/-- The token of a reply is kept, unless it is one on behalf of a caller. -/
lemma finish_of_ok {reply : TokenReply} {issued : IssuedToken}
    (h : reply.result g.client.tokenUrl = .ok issued) :
    g.finish now endpoint mode reply = (g.accept now endpoint mode issued, .ok issued.token) := by
  unfold finish
  rw [h]
  rfl

/-- A token that serves a request is one of those that are kept under its key. -/
lemma mem_kept_of_serving? {token : AccessToken}
    (h : g.serving? now endpoint mode = some token) :
    keeps mode.kind = true ∧ ∃ expiresAt, (key endpoint mode, ⟨token, expiresAt⟩) ∈ g.kept := by
  unfold serving? find? at h
  split at h
  · rename_i hkeeps
    refine ⟨hkeeps, ?_⟩
    split at h
    · rename_i kept hlookup
      split at h
      · obtain rfl := Option.some.inj h
        obtain ⟨front, back, hkept, -⟩ := List.lookup_eq_some_iff.mp hlookup
        exact ⟨kept.expiresAt, hkept ▸ List.mem_append_right _ List.mem_cons_self⟩
      · cases h
    · cases h
  · cases h

/-- What is kept after a token has been issued was kept before, or it is that token. -/
lemma mem_kept_accept {issued : IssuedToken} {k : TokenKey} {kept : KeptToken}
    (h : (k, kept) ∈ (g.accept now endpoint mode issued).kept) :
    (k, kept) ∈ g.kept ∨ k = key endpoint mode ∧ kept.token = issued.token := by
  unfold accept at h
  split at h
  · rcases List.mem_cons.mp h with heq | hmem
    · obtain ⟨rfl, rfl⟩ := Prod.mk.inj heq
      exact .inr ⟨rfl, rfl⟩
    · exact .inl (List.mem_filter.mp hmem).1
  · exact .inl h

end Cache

/-- A request to a provider with a given reply comes to one of its four ends, and the provider takes
down its forms behind those that it has been sent before. -/
theorem exists_arises (g : GrantCache) (exchange : Exchange) (endpoint : Url) (mode : AuthMode)
    (sent : List Form) : ∃ g' forms result,
      g.acquire exchange.asked exchange.replied (GrantedTokens.post exchange.reply) endpoint mode
          sent = ((g', result), sent ++ forms) ∧
        g.Arises ⟨endpoint, mode, exchange, forms, result⟩ g' := by
  unfold acquire
  rw [start_eq]
  cases hserving : g.serving? exchange.asked endpoint mode with
  | some token =>
    exact ⟨g, [], .ok token, congrArg (_, ·) (List.append_nil sent).symm, .served hserving⟩
  | none =>
    cases hform : g.client.form endpoint mode with
    | error e =>
      exact ⟨g, [], .error e, congrArg (_, ·) (List.append_nil sent).symm, .refused hserving hform⟩
    | ok form =>
      -- the provider takes down the form before the reply is looked at
      cases hreply : exchange.reply.result g.client.tokenUrl with
      | error e =>
        exact ⟨g, [form], .error e, congrArg (·, sent ++ [form]) (finish_of_error hreply),
          .failed hserving hform hreply⟩
      | ok issued =>
        exact ⟨_, [form], .ok issued.token, congrArg (·, sent ++ [form]) (finish_of_ok hreply),
          .issued hserving hform hreply⟩

end GrantCache

namespace GrantedTokens

/-- What becomes of the next request for a token. -/
def acquisition (t : GrantedTokens) (endpoint : Url) (mode : AuthMode) : Acquisition where
  endpoint
  mode
  exchange := t.next
  forms := (TokenSource.acquire t endpoint mode).1.sent.drop t.sent.length
  result := (TokenSource.acquire t endpoint mode).2

/-- What becomes of some requests for tokens that are made one after the other. -/
def ledger (t : GrantedTokens) : List (Url × AuthMode) → List Acquisition
  | [] => []
  | (endpoint, mode) :: calls =>
    t.acquisition endpoint mode :: (TokenSource.acquire t endpoint mode).1.ledger calls

/-- A ledger has one entry for each request, in their order. -/
lemma map_ledger (t : GrantedTokens) (calls : List (Url × AuthMode)) :
    ((t.ledger calls).map fun a => (a.endpoint, a.mode)) = calls := by
  induction calls generalizing t with
  | nil => rfl
  | cons call calls ih => exact congrArg (call :: ·) (ih _)

/-- A request for a token takes one exchange, and the provider takes down the forms of the request
behind those that it has been sent before. -/
lemma exists_acquire_eq (t : GrantedTokens) (endpoint : Url) (mode : AuthMode) :
    ∃ cache, TokenSource.acquire t endpoint mode =
        (⟨cache, t.exchanges.tail, t.sent ++ (t.acquisition endpoint mode).forms⟩,
          (t.acquisition endpoint mode).result) ∧
      t.cache.Arises (t.acquisition endpoint mode) cache := by
  obtain ⟨cache, forms, result, hacquire, harises⟩ :=
    t.cache.exists_arises t.next endpoint mode t.sent
  have hsource : TokenSource.acquire t endpoint mode =
      (⟨cache, t.exchanges.tail, t.sent ++ forms⟩, result) := by
    simp only [TokenSource.acquire, hacquire]
  have hacquisition : t.acquisition endpoint mode = ⟨endpoint, mode, t.next, forms, result⟩ := by
    simp only [acquisition, hsource, List.drop_left]
  rw [hacquisition]
  exact ⟨cache, hsource, harises⟩

/-- The provider takes down the forms of a request behind those that it has been sent before. -/
lemma sent_acquire (t : GrantedTokens) (endpoint : Url) (mode : AuthMode) :
    (TokenSource.acquire t endpoint mode).1.sent =
      t.sent ++ (t.acquisition endpoint mode).forms := by
  obtain ⟨cache, hacquire, -⟩ := t.exists_acquire_eq endpoint mode
  rw [hacquire]

/-- A request for a token comes to one of its four ends. -/
theorem arises_acquisition (t : GrantedTokens) (endpoint : Url) (mode : AuthMode) :
    t.cache.Arises (t.acquisition endpoint mode) (TokenSource.acquire t endpoint mode).1.cache := by
  obtain ⟨cache, hacquire, harises⟩ := t.exists_acquire_eq endpoint mode
  rw [hacquire]
  exact harises

/-- What holds of a ledger and a cache at the start, and is kept by every request, holds before
each request. -/
theorem ledger_induction {motive : List Acquisition → GrantCache → Prop}
    (hstep : ∀ log g a g', motive log g → g.Arises a g' → motive (log ++ [a]) g')
    {calls : List (Url × AuthMode)} {t : GrantedTokens} {log before after : List Acquisition}
    {a : Acquisition} (hstart : motive log t.cache)
    (h : t.ledger calls = before ++ a :: after) :
    ∃ g g', motive (log ++ before) g ∧ g.Arises a g' := by
  induction calls generalizing t log before with
  | nil => cases before <;> cases h
  | cons call calls ih =>
    have harises := t.arises_acquisition call.1 call.2
    rw [ledger] at h
    cases before with
    | nil =>
      obtain ⟨rfl, -⟩ := List.cons.inj h
      exact ⟨_, _, (List.append_nil log).symm ▸ hstart, harises⟩
    | cons b before =>
      obtain ⟨rfl, hrest⟩ := List.cons.inj h
      rw [List.append_cons]
      exact ih (hstep _ _ _ _ hstart harises) hrest

end GrantedTokens

end RecordGateway
