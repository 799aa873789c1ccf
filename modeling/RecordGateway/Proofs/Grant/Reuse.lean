import RecordGateway.Proofs.Attributes
import RecordGateway.Proofs.Grant.Provenance

/-!
# The reuse of tokens

Under every key the token is kept that was issued last for it, and it serves until a minute before
the end of its lifetime.  A token whose lifetime is not known, or not longer than that minute, or
longer than the clock goes, never serves again.  Requests on behalf of callers have nothing to do
with what is kept.
-/

namespace RecordGateway

/-! ### The clock -/

/-- The nanoseconds of a point in time that is a number of seconds later. -/
lemma Moment.nanoseconds_after? {m later : Moment} {seconds : Nat}
    (h : m.after? seconds = some later) :
    later.nanoseconds = m.nanoseconds + seconds * second := by
  unfold after? at h
  dsimp only at h
  split at h
  · obtain rfl := Option.some.inj h
    rfl
  · cases h

/-- A token that still serves some time after it was received has a lifetime that is longer than
the margin and that the clock can follow to its end. -/
lemma GrantCache.exists_lifetime_of_lt_expiry {replied asked : Moment} {lifetime : Option Nat}
    (hclock : replied ≤ asked) (h : asked < expiry replied lifetime) :
    ∃ seconds, lifetime = some seconds ∧ margin < seconds ∧
      ∃ last, replied.after? (seconds - margin) = some last ∧ asked < last := by
  have hlate : ¬ asked.nanoseconds < replied.nanoseconds := Nat.not_lt.mpr hclock
  unfold expiry at h
  cases hafter : replied.after? (lifetime.getD 0 - margin) with
  | none =>
    rw [hafter] at h
    exact absurd h hlate
  | some last =>
    rw [hafter] at h
    have hlast := Moment.nanoseconds_after? hafter
    have hlt : asked.nanoseconds < last.nanoseconds := h
    have hlong : margin < lifetime.getD 0 := by
      refine Nat.lt_of_not_le ?_
      intro hshort
      rw [Nat.sub_eq_zero_of_le hshort, Nat.zero_mul, Nat.add_zero] at hlast
      rw [hlast] at hlt
      exact hlate hlt
    cases lifetime with
    | none => exact absurd hlong (Nat.not_lt_zero _)
    | some seconds => exact ⟨seconds, rfl, hlong, last, hafter, h⟩

/-- Whether the clock never goes back from one request to the next. -/
def Chronological (ledger : List Acquisition) : Prop :=
  (ledger.flatMap fun a => [a.exchange.asked, a.exchange.replied]).Pairwise (· ≤ ·)

instance (ledger : List Acquisition) : Decidable (Chronological ledger) :=
  inferInstanceAs (Decidable (List.Pairwise _ _))

/-- Every reply has come before a later request is made. -/
lemma Chronological.replied_le {before : List Acquisition} {a b : Acquisition}
    (h : Chronological (before ++ [a])) (hb : b ∈ before) :
    b.exchange.replied ≤ a.exchange.asked := by
  unfold Chronological at h
  rw [List.flatMap_append] at h
  refine (List.pairwise_append.mp h).2.2 _ ?_ _ ?_
  · exact List.mem_flatMap.mpr ⟨b, hb, by simp⟩
  · simp

/-! ### Forms and replies -/

/-- A form cannot be made only for want of the secret of the client. -/
theorem GrantClient.exists_form_eq_error (c : GrantClient) (endpoint : Url) (mode : AuthMode) :
    (∃ e, c.form endpoint mode = .error e) ↔
      c.clientSecret = none ∧ mode.kind ≠ .serviceIdentity := by
  unfold form secretFor
  cases mode <;> cases c.clientSecret <;> simp [AuthMode.kind, bind, Except.bind]

/-- Whether a reply brings no token: there is none, or it is a refusal, or it cannot be read. -/
def TokenReply.BringsNoToken : TokenReply → Prop
  | noAnswer => True
  | answered status body => Http.isSuccess status = false ∨ issued? body = none

/-- A reply that brings no token is an error. -/
lemma TokenReply.exists_result_eq_error (reply : TokenReply) (url : Url) :
    (∃ e, reply.result url = .error e) ↔ reply.BringsNoToken := by
  cases reply with
  | noAnswer => exact ⟨fun _ => trivial, fun _ => ⟨_, rfl⟩⟩
  | answered status body =>
    unfold result BringsNoToken
    cases hsuccess : Http.isSuccess status with
    | true => cases hissued : issued? body <;> simp [hsuccess, hissued]
    | false => cases hserver : Http.isServerError status <;> simp [hsuccess, hserver]

/-! ### What is kept -/

namespace GrantCache

variable {g : GrantCache} {now : Moment} {endpoint : Url} {mode : AuthMode}

/-- Whether no kept token serves a request: it is one on behalf of a caller, or nothing is kept
under its key, or what is kept has expired. -/
def LacksToken (g : GrantCache) (now : Moment) (endpoint : Url) (mode : AuthMode) : Prop :=
  mode.kind = .delegated ∨
    ∀ kept, g.kept.lookup (key endpoint mode) = some kept → ¬ now < kept.expiresAt

/-- The tokens of a mode are kept unless it acts on behalf of callers. -/
lemma keeps_eq_true {kind : AuthModeKind} : keeps kind = true ↔ kind ≠ .delegated := by
  cases kind <;> simp [keeps]

/-- A kept token serves until it expires. -/
lemma serving?_eq_some {token : AccessToken} :
    g.serving? now endpoint mode = some token ↔ mode.kind ≠ .delegated ∧
      ∃ kept, g.kept.lookup (key endpoint mode) = some kept ∧ now < kept.expiresAt ∧
        kept.token = token := by
  unfold serving? find?
  rw [← keeps_eq_true]
  cases hkeeps : keeps mode.kind with
  | false => simp
  | true =>
    cases hlookup : g.kept.lookup (key endpoint mode) with
    | none => simp
    | some kept =>
      by_cases hlt : now < kept.expiresAt <;> simp [hlt]

/-- No kept token serves a request that lacks one. -/
lemma serving?_eq_none : g.serving? now endpoint mode = none ↔ g.LacksToken now endpoint mode := by
  rw [Option.eq_none_iff_forall_ne_some]
  constructor
  · intro h
    by_cases hmode : mode.kind = .delegated
    · exact .inl hmode
    · refine .inr ?_
      intro kept hkept hlt
      exact h kept.token (serving?_eq_some.mpr ⟨hmode, kept, hkept, hlt, rfl⟩)
  · intro h token htoken
    obtain ⟨hmode, kept, hkept, hlt, -⟩ := serving?_eq_some.mp htoken
    rcases h with hdelegated | hexpired
    · exact hmode hdelegated
    · exact hexpired kept hkept hlt

/-- A token on behalf of a caller is not kept. -/
lemma accept_of_delegated (issued : IssuedToken) (h : mode.kind = .delegated) :
    g.accept now endpoint mode issued = g := by
  unfold accept
  rw [h]
  rfl

/-- Keeping a token under a key leaves what is kept under other keys as it is. -/
lemma lookup_keep (k k' : TokenKey) (t : KeptToken) :
    (g.keep k t).kept.lookup k' = if k' = k then some t else g.kept.lookup k' := by
  unfold keep
  rw [List.lookup_cons]
  by_cases h : k' = k
  · simp [h]
  · have hother := lookup_filter (fun e : TokenKey => decide (e ≠ k)) k' g.kept
    rw [beq_eq_false_iff_ne.mpr h, if_neg h]
    exact hother.trans (if_pos (decide_eq_true h))

end GrantCache

/-- What a request leaves to be kept: the token that it has been issued, unless it is one on behalf
of a caller. -/
def Acquisition.deposit? (client : GrantClient) (a : Acquisition) :
    Option (TokenKey × KeptToken) :=
  match a.form?, a.exchange.reply.result client.tokenUrl with
  | some _, .ok issued =>
    if a.mode.kind = .delegated then none
    else some (GrantCache.key a.endpoint a.mode,
      ⟨issued.token, GrantCache.expiry a.exchange.replied issued.lifetime⟩)
  | _, _ => none

/-- What some requests have left under a key last. -/
def lastDeposit? (client : GrantClient) (ledger : List Acquisition) (k : TokenKey) :
    Option KeptToken :=
  (ledger.filterMap (·.deposit? client)).reverse.lookup k

section Deposits

variable {client : GrantClient} {ledger : List Acquisition} {a : Acquisition} {k : TokenKey}

/-- What a request leaves replaces what was left under its key before. -/
lemma lastDeposit?_concat :
    lastDeposit? client (ledger ++ [a]) k = match a.deposit? client with
      | some (k', kept) => if k = k' then some kept else lastDeposit? client ledger k
      | none => lastDeposit? client ledger k := by
  unfold lastDeposit?
  rw [List.filterMap_append, List.reverse_append]
  cases hdeposit : a.deposit? client with
  | none => simp [hdeposit]
  | some entry =>
    obtain ⟨k', kept⟩ := entry
    by_cases h : k = k'
    · simp [hdeposit, h]
    · simp [hdeposit, h, List.lookup_cons, beq_eq_false_iff_ne.mpr h]

/-- What was left last under a key was left by a request with that key that sent a form. -/
lemma exists_of_lastDeposit? {kept : KeptToken} (h : lastDeposit? client ledger k = some kept) :
    ∃ b ∈ ledger, b.form?.isSome = true ∧ GrantCache.key b.endpoint b.mode = k ∧
      ∃ lifetime, b.exchange.reply.result client.tokenUrl = .ok ⟨kept.token, lifetime⟩ ∧
        kept.expiresAt = GrantCache.expiry b.exchange.replied lifetime := by
  obtain ⟨front, back, hsplit, -⟩ := List.lookup_eq_some_iff.mp h
  have hmem : (k, kept) ∈ (ledger.filterMap (·.deposit? client)).reverse := by
    rw [hsplit]
    exact List.mem_append_right front List.mem_cons_self
  obtain ⟨b, hb, hdeposit⟩ := List.mem_filterMap.mp (List.mem_reverse.mp hmem)
  refine ⟨b, hb, ?_⟩
  unfold Acquisition.deposit? at hdeposit
  split at hdeposit
  · rename_i form issued hform hresult
    split at hdeposit
    · cases hdeposit
    · obtain ⟨rfl, rfl⟩ := Prod.mk.inj (Option.some.inj hdeposit)
      exact ⟨by simp [hform], rfl, issued.lifetime, hresult, rfl⟩
  · cases hdeposit

/-- A cache that keeps under every key what was left there last. -/
structure Current (client : GrantClient) (ledger : List Acquisition) (g : GrantCache) : Prop where
  client_eq : g.client = client
  lookup_eq : ∀ k, g.kept.lookup k = lastDeposit? client ledger k

/-- Every request leaves such a cache. -/
lemma Current.arises {g g' : GrantCache} (h : Current client ledger g) (harises : g.Arises a g') :
    Current client (ledger ++ [a]) g' := by
  obtain ⟨rfl, hlookup⟩ := h
  have hsame (hnone : a.deposit? g.client = none) : Current g.client (ledger ++ [a]) g := by
    refine ⟨rfl, ?_⟩
    intro k
    rw [lastDeposit?_concat, hnone]
    exact hlookup k
  cases harises with
  | served _ => exact hsame rfl
  | refused _ _ => exact hsame rfl
  | failed _ _ hreply => exact hsame (by simp [Acquisition.deposit?, hreply])
  | @issued endpoint mode exchange form issued _ _ hreply =>
    by_cases hmode : mode.kind = .delegated
    · rw [GrantCache.accept_of_delegated issued hmode]
      exact hsame (by simp [Acquisition.deposit?, Acquisition.form?, hmode, hreply])
    · refine ⟨GrantCache.accept_client issued, ?_⟩
      intro k
      rw [lastDeposit?_concat, GrantCache.accept, if_pos (GrantCache.keeps_eq_true.mpr hmode),
        GrantCache.lookup_keep, hlookup]
      simp [Acquisition.deposit?, Acquisition.form?, hreply, hmode]

/-- A kept token that serves was issued for its key, with a lifetime that has not run out. -/
lemma Current.exists_of_serving? {g : GrantCache} {token : AccessToken}
    (h : Current client ledger g) (hclock : Chronological (ledger ++ [a]))
    (hserving : g.serving? a.exchange.asked a.endpoint a.mode = some token) :
    ∃ b ∈ ledger, b.form?.isSome = true ∧
      GrantCache.key b.endpoint b.mode = GrantCache.key a.endpoint a.mode ∧
      ∃ seconds, b.exchange.reply.result client.tokenUrl = .ok ⟨token, some seconds⟩ ∧
        GrantCache.margin < seconds ∧
        ∃ last, b.exchange.replied.after? (seconds - GrantCache.margin) = some last ∧
          a.exchange.asked < last := by
  obtain ⟨-, kept, hkept, hlt, rfl⟩ := GrantCache.serving?_eq_some.mp hserving
  rw [h.lookup_eq] at hkept
  obtain ⟨b, hb, hsent, hkey, lifetime, hreply, hexpires⟩ := exists_of_lastDeposit? hkept
  rw [hexpires] at hlt
  -- the clock has not gone back since the reply, so the lifetime was not used up at once
  obtain ⟨seconds, rfl, hlong, hlast⟩ :=
    GrantCache.exists_lifetime_of_lt_expiry (hclock.replied_le hb) hlt
  exact ⟨b, hb, hsent, hkey, seconds, hreply, hlong, hlast⟩

end Deposits

/-! ### Requests one after the other -/

namespace GrantedTokens

/-- The source after some requests for tokens. -/
def after (t : GrantedTokens) (calls : List (Url × AuthMode)) : GrantedTokens :=
  calls.foldl (fun t call => (TokenSource.acquire t call.1 call.2).1) t

/-- A further request finds the source as the ones before have left it. -/
lemma ledger_concat (t : GrantedTokens) (calls : List (Url × AuthMode)) (endpoint : Url)
    (mode : AuthMode) :
    t.ledger (calls ++ [(endpoint, mode)]) =
      t.ledger calls ++ [(t.after calls).acquisition endpoint mode] := by
  induction calls generalizing t with
  | nil => rfl
  | cons call calls ih =>
    have hrest := ih (TokenSource.acquire t call.1 call.2).1
    rw [List.cons_append, ledger, hrest]
    rfl

/-- Requests leave under every key what was left there last. -/
theorem current_after {client : GrantClient} {log : List Acquisition} {t : GrantedTokens}
    (h : Current client log t.cache) (calls : List (Url × AuthMode)) :
    Current client (log ++ t.ledger calls) (t.after calls).cache := by
  induction calls generalizing t log with
  | nil =>
    rw [ledger, List.append_nil]
    exact h
  | cons call calls ih =>
    have hstep := h.arises (t.arises_acquisition call.1 call.2)
    have hrest := ih hstep
    rw [List.append_assoc] at hrest
    exact hrest

end GrantedTokens

/-! ### What becomes of a request -/

namespace GrantCache.Arises

variable {g g' : GrantCache} {a : Acquisition}

/-- What becomes of a request that lacks a kept token: its form is sent if it has one, and the reply
to it decides. -/
lemma eq_of_lacksToken (h : g.Arises a g')
    (hlacks : g.LacksToken a.exchange.asked a.endpoint a.mode) :
    a.forms = (g.client.form a.endpoint a.mode).toOption.toList ∧
      a.result = do
        let _ ← g.client.form a.endpoint a.mode
        let issued ← a.exchange.reply.result g.client.tokenUrl
        return issued.token := by
  have hserving := serving?_eq_none.mpr hlacks
  cases h with
  | served hserved =>
    rw [hserving] at hserved
    cases hserved
  | refused _ hrefused =>
    rw [hrefused]
    exact ⟨rfl, rfl⟩
  | failed _ hsent hreply =>
    rw [hsent, hreply]
    exact ⟨rfl, rfl⟩
  | issued _ hsent hreply =>
    rw [hsent, hreply]
    exact ⟨rfl, rfl⟩

/-- A request that is served by a kept token sends nothing and leaves everything as it is. -/
lemma of_serving? (h : g.Arises a g') {token : AccessToken}
    (hserving : g.serving? a.exchange.asked a.endpoint a.mode = some token) :
    a.forms = [] ∧ a.result = .ok token ∧ g' = g := by
  cases h with
  | served hserved =>
    obtain rfl := Option.some.inj (hserved.symm.trans hserving)
    exact ⟨rfl, rfl, rfl⟩
  | refused hnone _ =>
    rw [hnone] at hserving
    cases hserving
  | failed hnone _ _ =>
    rw [hnone] at hserving
    cases hserving
  | issued hnone _ _ =>
    rw [hnone] at hserving
    cases hserving

/-- A token that comes without a form is a kept one. -/
lemma serving?_of_form?_eq_none (h : g.Arises a g') (hform : a.form? = none) {token : AccessToken}
    (hresult : a.result = .ok token) :
    g.serving? a.exchange.asked a.endpoint a.mode = some token := by
  cases h with
  | served hserved =>
    obtain rfl := Except.ok.inj hresult
    exact hserved
  | refused _ _ => cases hresult
  | failed _ _ _ => cases hform
  | issued _ _ _ => cases hform

/-- A failure leaves what is kept as it is. -/
lemma cache_eq_of_error (h : g.Arises a g') {e : CredentialError} (he : a.result = .error e) :
    g' = g := by
  cases h with
  | served _ => rfl
  | refused _ _ => rfl
  | failed _ _ _ => rfl
  | issued _ _ _ => cases he

/-- When a request fails. -/
lemma exists_result_eq_error (h : g.Arises a g') :
    (∃ e, a.result = .error e) ↔ g.LacksToken a.exchange.asked a.endpoint a.mode ∧
      ((g.client.clientSecret = none ∧ a.mode.kind ≠ .serviceIdentity) ∨
        a.exchange.reply.BringsNoToken) := by
  rw [← serving?_eq_none, ← g.client.exists_form_eq_error a.endpoint,
    ← a.exchange.reply.exists_result_eq_error g.client.tokenUrl]
  cases h with
  | served hserved => simp [hserved]
  | refused hnone hrefused => simp [hnone, hrefused]
  | failed hnone hsent hreply => simp [hnone, hreply]
  | issued hnone hsent hreply => simp [hsent, hreply]

/-- A request on behalf of a caller leaves what is kept as it is. -/
lemma cache_eq_of_delegated (h : g.Arises a g') (hmode : a.mode.kind = .delegated) : g' = g := by
  cases h with
  | served _ => rfl
  | refused _ _ => rfl
  | failed _ _ _ => rfl
  | issued _ _ _ => exact accept_of_delegated _ hmode

end GrantCache.Arises

/-- What becomes of a request on behalf of a caller does not depend on what is kept. -/
lemma GrantedTokens.acquisition_congr_of_delegated (t : GrantedTokens) {endpoint : Url}
    {mode : AuthMode} (hmode : mode.kind = .delegated) (kept : List (TokenKey × KeptToken)) :
    { t with cache := ⟨t.cache.client, kept⟩ }.acquisition endpoint mode =
      t.acquisition endpoint mode := by
  have hkept := { t with cache := ⟨t.cache.client, kept⟩ }.arises_acquisition endpoint mode
  have hcache := t.arises_acquisition endpoint mode
  obtain ⟨hforms, hresult⟩ := hcache.eq_of_lacksToken (.inl hmode)
  obtain ⟨hforms', hresult'⟩ := hkept.eq_of_lacksToken (.inl hmode)
  exact Acquisition.ext rfl rfl rfl (hforms'.trans hforms.symm) (hresult'.trans hresult.symm)

/-- That a request for a token, made after others, reuses a token that they have left as long as it
serves, and that only an issued token changes what is kept. -/
structure ReusesTokens (client : GrantClient) (before : List Acquisition) (t : GrantedTokens)
    (endpoint : Url) (mode : AuthMode) : Prop where
  /-- What is kept under a key is the token that was issued last for it. -/
  latest : ∀ k, t.cache.kept.lookup k = lastDeposit? client before k
  /-- If no kept token serves, the form is sent, and no other one. -/
  sends : t.cache.LacksToken t.next.asked endpoint mode →
    ∀ form, client.form endpoint mode = .ok form →
      (t.acquisition endpoint mode).form? = some form ∧
        (TokenSource.acquire t endpoint mode).1.sent = t.sent ++ [form]
  /-- A kept token serves until it expires, and then nothing is sent. -/
  spares : mode.kind ≠ .delegated → ∀ kept,
    t.cache.kept.lookup (GrantCache.key endpoint mode) = some kept →
    t.next.asked < kept.expiresAt →
      (t.acquisition endpoint mode).form? = none ∧
        (TokenSource.acquire t endpoint mode).1.sent = t.sent ∧
        (t.acquisition endpoint mode).result = .ok kept.token
  /-- A token that serves again was issued for its key, with a lifetime that goes a minute beyond
  the request. -/
  served : (t.acquisition endpoint mode).form? = none → ∀ token,
    (t.acquisition endpoint mode).result = .ok token →
      mode.kind ≠ .delegated ∧ ∃ b ∈ before, b.form?.isSome = true ∧
        GrantCache.key b.endpoint b.mode = GrantCache.key endpoint mode ∧
        ∃ seconds, b.exchange.reply.result client.tokenUrl = .ok ⟨token, some seconds⟩ ∧
          60 < seconds ∧ ∃ last, b.exchange.replied.after? (seconds - 60) = some last ∧
            t.next.asked < last
  /-- When a request fails. -/
  fails : (∃ e, (t.acquisition endpoint mode).result = .error e) ↔
    t.cache.LacksToken t.next.asked endpoint mode ∧
      ((client.clientSecret = none ∧ mode.kind ≠ .serviceIdentity) ∨ t.next.reply.BringsNoToken)
  /-- A failure leaves what is kept as it is. -/
  failed : ∀ e, (t.acquisition endpoint mode).result = .error e →
    (TokenSource.acquire t endpoint mode).1.cache = t.cache
  /-- A request on behalf of a caller neither changes what is kept nor depends on it. -/
  delegated : mode.kind = .delegated →
    (TokenSource.acquire t endpoint mode).1.cache = t.cache ∧
      ∀ kept, { t with cache := ⟨t.cache.client, kept⟩ }.acquisition endpoint mode =
        t.acquisition endpoint mode

/-- **The reuse of tokens.**  When requests for tokens are made one after the other, by a clock that
never goes back and whatever the provider replies, each one is served by the token that was issued
last for its key until a minute before the end of the lifetime; otherwise it sends one form. -/
theorem reusesTokens_after (client : GrantClient) (exchanges : List Exchange)
    (earlier : List (Url × AuthMode)) (endpoint : Url) (mode : AuthMode)
    (hclock : Chronological
      ((GrantedTokens.ofClient client exchanges).ledger (earlier ++ [(endpoint, mode)]))) :
    ReusesTokens client ((GrantedTokens.ofClient client exchanges).ledger earlier)
      ((GrantedTokens.ofClient client exchanges).after earlier) endpoint mode := by
  have hempty : Current client [] (GrantedTokens.ofClient client exchanges).cache :=
    ⟨rfl, fun _ => rfl⟩
  have hcurrent := GrantedTokens.current_after hempty earlier
  rw [GrantedTokens.ledger_concat] at hclock
  rw [List.nil_append] at hcurrent
  -- all that matters of the earlier requests is that the cache is what their ledger makes it
  generalize (GrantedTokens.ofClient client exchanges).ledger earlier = before at *
  generalize (GrantedTokens.ofClient client exchanges).after earlier = t at *
  have harises := t.arises_acquisition endpoint mode
  have hsent := t.sent_acquire endpoint mode
  constructor
  case latest => exact hcurrent.lookup_eq
  case sends =>
    intro hlacks form hform
    have hforms : (t.acquisition endpoint mode).forms = [form] := by
      rw [(harises.eq_of_lacksToken hlacks).1, hcurrent.client_eq]
      exact congrArg (·.toOption.toList) hform
    rw [hsent, Acquisition.form?, hforms]
    exact ⟨rfl, rfl⟩
  case spares =>
    intro hmode kept hkept hlt
    have hserving := GrantCache.serving?_eq_some.mpr ⟨hmode, kept, hkept, hlt, rfl⟩
    obtain ⟨hforms, hresult, -⟩ := harises.of_serving? hserving
    rw [hsent, Acquisition.form?, hforms]
    exact ⟨rfl, List.append_nil _, hresult⟩
  case served =>
    intro hform? token htoken
    have hserving := harises.serving?_of_form?_eq_none hform? htoken
    exact ⟨(GrantCache.serving?_eq_some.mp hserving).1, hcurrent.exists_of_serving? hclock hserving⟩
  case fails =>
    rw [← hcurrent.client_eq]
    exact harises.exists_result_eq_error
  case failed =>
    intro e he
    exact harises.cache_eq_of_error he
  case delegated =>
    intro hmode
    exact ⟨harises.cache_eq_of_delegated hmode, t.acquisition_congr_of_delegated hmode⟩

/-! ### A token for an hour -/

namespace HourlyToken

/-- An answer, one second after the request, with a token that is valid for an hour; one more
request a moment before this token is given up, and one right then. -/
def exchanges : List Exchange :=
  let reply : TokenReply :=
    .answered 200 "\x7b\"access_token\":\"t\",\"expires_in\":3600\x7d"
  [⟨⟨0⟩, ⟨Moment.second⟩, reply⟩, ⟨⟨3541 * Moment.second - 1⟩, ⟨3541 * Moment.second - 1⟩, reply⟩,
    ⟨⟨3541 * Moment.second⟩, ⟨3541 * Moment.second⟩, reply⟩]

/-- The source of the tokens. -/
def source : GrantedTokens :=
  .ofClient SharedToken.client exchanges

/-- A request for a token for the application itself. -/
def call : Url × AuthMode :=
  (SharedToken.endpoint, .application)

/-- The second request is served by the kept token, and the third one is not any more. -/
theorem reusesTokens_hour :
    Chronological (source.ledger [call, call, call]) ∧
      ReusesTokens SharedToken.client (source.ledger [call, call]) (source.after [call, call])
        SharedToken.endpoint .application ∧
      (source.ledger [call, call, call]).map (·.form?.isSome) = [true, false, true] := by
  have hclock : Chronological (source.ledger [call, call, call]) := by decide +kernel
  have hreuse := reusesTokens_after SharedToken.client exchanges [call, call]
    SharedToken.endpoint .application hclock
  exact ⟨hclock, hreuse, by decide +kernel⟩

end HourlyToken

end RecordGateway
