import Mathlib.Data.List.Induction
import RecordGateway.Proofs.Records.LocalResults
import RecordGateway.Proofs.Records.Openings

/-!
# One session for each scope

Operations run one after the other in the scope of a caller.  Until a session is open, each one
that needs the store makes one attempt to open it, and fails if the attempt does; a failure is not
remembered.  Once a session is open, no other one is asked for, and no token either.
-/

namespace RecordGateway

/-! ### Errands -/

/-- A call of an operation, whose sessions are opened with some settings, and the backend that it
finds.  Nothing is said about how that backend came about. -/
structure Errand (S : Type) (settings : ConnectionSettings) where
  {D P : Type}
  [dataObject : DataObject D P]
  manager : Manager D
  settings_eq : manager.settings = settings
  call : ManagerCall D P
  backend : Backend S

attribute [instance] Errand.dataObject

/-- Whether a reply tells that a session has been opened. -/
def Reply.opened : Reply → Bool
  | ⟨.connect _, .ok _⟩ => true
  | _ => false

/-- A reply to a request for neither a token nor a session opens none. -/
lemma Reply.opened_eq_false {r : Reply} (h : r.request.opensSession = false) :
    r.opened = false := by
  obtain ⟨request, answer⟩ := r
  cases request with
  | connect token => cases h
  | _ => rfl

variable {S : Type} {settings : ConnectionSettings}

namespace Errand

/-- The operation that is called. -/
def operation (e : Errand S settings) : Operation e.call.Result :=
  e.manager.perform e.call

/-- An errand stays in the session that it has. -/
lemma staysInSession_operation (e : Errand S settings) : e.operation.StaysInSession :=
  (e.manager.opensFirst_perform e.call).staysInSession

variable [TokenSource S]

/-- Whether the call cannot be settled by what it is given alone. -/
def needsStore (e : Errand S settings) : Bool :=
  (e.manager.localResult? e.call).isNone

/-- The turns that the operation takes in a scope. -/
def turns (e : Errand S settings) (scope : RequestScope) : List (Turn S) :=
  (e.operation.inScope scope).turns e.backend

/-- The result of the operation in a scope, and the scope afterwards. -/
def ending (e : Errand S settings) (scope : RequestScope) :
    Except RecordError e.call.Result × RequestScope :=
  (e.operation.outcome scope e.backend).2

end Errand

variable [TokenSource S]

namespace RequestScope

/-- The scope after some errands one after the other. -/
def after (scope : RequestScope) (errands : List (Errand S settings)) : RequestScope :=
  errands.foldl (fun scope e => (e.ending scope).2) scope

/-- The turns that some errands take one after the other in a scope. -/
def log (scope : RequestScope) : List (Errand S settings) → List (Turn S)
  | [] => []
  | e :: errands => e.turns scope ++ (e.ending scope).2.log errands

/-- A further errand finds the scope as the ones before have left it. -/
lemma after_concat (scope : RequestScope) (errands : List (Errand S settings))
    (e : Errand S settings) :
    scope.after (errands ++ [e]) = (e.ending (scope.after errands)).2 := by
  unfold after
  rw [List.foldl_append]
  rfl

/-- The turns of a further errand come last. -/
lemma log_concat (scope : RequestScope) (errands : List (Errand S settings))
    (e : Errand S settings) :
    scope.log (errands ++ [e]) = scope.log errands ++ e.turns (scope.after errands) := by
  induction errands generalizing scope with
  | nil => exact List.append_nil _
  | cons first errands ih =>
    have hrest := ih (first.ending scope).2
    rw [List.cons_append, log, hrest, log, List.append_assoc]
    rfl

end RequestScope

/-! ### One attempt -/

/-- What becomes of the one attempt to open a session that an operation makes at its start: the
mode for the caller is missing, or the token, or the session, and then the operation fails for just
that reason and asks for nothing else; or the session is opened, and only then the store is
called. -/
inductive Attempt (settings : ConnectionSettings) (caller : Caller) {α : Type} :
    List (Turn S) → Except RecordError α × RequestScope → Prop
  | noMode {e : CredentialError} : settings.modeFor caller = .error e →
      Attempt settings caller [] (.error (.credential e), .ofCaller caller)
  | noToken {mode : AuthMode} {t : Turn S} {e : CredentialError} :
      settings.modeFor caller = .ok mode →
      t.reply = ⟨.token settings.endpoint mode, .error e⟩ →
      Attempt settings caller [t] (.error (.credential e), .ofCaller caller)
  | noSession {mode : AuthMode} {t u : Turn S} {token : AccessToken} {e : StoreError} :
      settings.modeFor caller = .ok mode →
      t.reply = ⟨.token settings.endpoint mode, .ok token⟩ →
      u.reply = ⟨.connect token, .error e⟩ →
      Attempt settings caller [t, u] (.error (.ofStore e), .ofCaller caller)
  | opened {mode : AuthMode} {t u : Turn S} {token : AccessToken} {calls : List (Turn S)}
      {result : Except RecordError α} :
      settings.modeFor caller = .ok mode →
      t.reply = ⟨.token settings.endpoint mode, .ok token⟩ →
      u.reply = ⟨.connect token, .ok ()⟩ →
      (∀ x ∈ calls, x.request.opensSession = false) →
      Attempt settings caller (t :: u :: calls) (result, ⟨caller, true⟩)

namespace Operation

variable {α : Type}

/-- In a session, an operation leaves its scope as it is. -/
lemma StaysInSession.scope_outcome {x : Operation α} (h : x.StaysInSession) {scope : RequestScope}
    (hscope : scope.connected = true) (b : Backend S) : (x.outcome scope b).2.2 = scope :=
  (h [] scope hscope).run b

/-- What follows the opening of a session stays in the session that is open. -/
lemma StaysInSession.of_acquire_bind {rest : Unit → Operation α}
    (h : (acquire settings >>= rest).StaysInSession) : (rest ()).StaysInSession := by
  intro history scope hscope
  obtain ⟨caller, connected⟩ := scope
  obtain rfl : connected = true := hscope
  exact h history ⟨caller, true⟩ rfl

/-- An operation that opens a session first makes one attempt at it. -/
theorem attempt_acquire_bind {rest : Unit → Operation α} (hrest : (rest ()).StaysInSession)
    (caller : Caller) (b : Backend S) :
    Attempt settings caller (((acquire settings >>= rest).inScope (.ofCaller caller)).turns b)
      ((acquire settings >>= rest).outcome (.ofCaller caller) b).2 := by
  unfold outcome
  rw [inScope_bind, inScope_acquire]
  -- what can be missing before the rest runs is the mode, then the token, then the session
  cases hmode : settings.modeFor caller with
  | error e => exact .noMode hmode
  | ok mode =>
    simp only [Script.ask_bind, Script.turns, Script.run]
    have htoken : (Turn.mk 0 b (.token settings.endpoint mode)).reply =
        ⟨.token settings.endpoint mode, (b.answer (.token settings.endpoint mode)).2⟩ := rfl
    cases hanswer : (b.answer (.token settings.endpoint mode)).2 with
    | error e =>
      rw [hanswer] at htoken
      exact .noToken hmode htoken
    | ok token =>
      rw [hanswer] at htoken
      simp only [Script.ask_bind, Script.turns, Script.run]
      generalize (b.answer (.token settings.endpoint mode)).1 = b'
      have hsession : (Turn.mk 0 b' (.connect token)).reply =
          ⟨.connect token, (b'.answer (.connect token)).2⟩ := rfl
      cases hconnect : (b'.answer (.connect token)).2 with
      | error e =>
        rw [hconnect] at hsession
        exact .noSession hmode htoken hsession
      | ok _ =>
        rw [hconnect] at hsession
        generalize (b'.answer (.connect token)).1 = opened
        have hconnected : (RequestScope.mk caller true).connected = true := rfl
        have hscope := hrest.scope_outcome hconnected opened
        have hcalls := hrest.forall_turns hconnected opened
        have hending : ((rest ()).outcome ⟨caller, true⟩ opened).2 =
            (((rest ()).outcome ⟨caller, true⟩ opened).2.1, ⟨caller, true⟩) :=
          Prod.ext rfl hscope
        change Attempt settings caller (_ :: _ :: ((rest ()).inScope ⟨caller, true⟩).turns opened)
          ((rest ()).outcome ⟨caller, true⟩ opened).2
        rw [hending]
        exact .opened hmode htoken hsession hcalls

end Operation

/-! ### Errands in a scope -/

namespace Errand

variable {e : Errand S settings} {caller : Caller} {scope : RequestScope}

/-- An errand in a scope with a session asks for nothing that opens another one. -/
lemma forall_turns_of_connected (e : Errand S settings) (hscope : scope.connected = true) :
    ∀ t ∈ e.turns scope, t.request.opensSession = false :=
  e.staysInSession_operation.forall_turns hscope e.backend

/-- An errand in a scope with a session leaves the scope as it is. -/
lemma scope_ending_of_connected (e : Errand S settings) (hscope : scope.connected = true) :
    (e.ending scope).2 = scope :=
  e.staysInSession_operation.scope_outcome hscope e.backend

/-- An errand that does not need the store takes no turn and leaves the scope as it is. -/
lemma settled_of_needsStore (h : e.needsStore = false) (scope : RequestScope) :
    e.turns scope = [] ∧ (e.ending scope).2 = scope ∧
      e.manager.localResult? e.call = some (e.ending scope).1 := by
  cases hlocal : e.manager.localResult? e.call with
  | none => simp [needsStore, hlocal] at h
  | some result =>
    obtain ⟨hresult, hstays⟩ := Manager.staysLocal_of_localResult? hlocal scope e.backend
    exact ⟨hstays.turns_eq, hstays.scope_eq, congrArg some hresult.symm⟩

/-- An errand that needs the store makes one attempt to open a session if there is none. -/
lemma attempt_of_needsStore (h : e.needsStore = true) :
    Attempt settings caller (e.turns (.ofCaller caller)) (e.ending (.ofCaller caller)) := by
  have hstays := e.staysInSession_operation
  unfold turns ending
  unfold operation at hstays ⊢
  cases e.manager.begins_perform e.call with
  | settled result hlocal _ => simp [needsStore, hlocal] at h
  | session rest _ hperform _ =>
    rw [hperform, e.settings_eq] at hstays ⊢
    exact Operation.attempt_acquire_bind hstays.of_acquire_bind caller e.backend

end Errand

/-! ### Runs -/

/-- Whether some turns have only tried to open a session, in vain. -/
def Unopened (log : List (Turn S)) : Prop :=
  ∀ t ∈ log, t.request.opensSession = true ∧ t.reply.opened = false

/-- Whether among some turns one has opened a session, after others that have only tried to, and
before others that use it. -/
def Sealed (log : List (Turn S)) : Prop :=
  ∃ front t back, log = front ++ t :: back ∧ Unopened front ∧ t.reply.opened = true ∧
    ∀ x ∈ back, x.request.opensSession = false

/-- How far some turns have come in the scope of a caller, which they leave. -/
def Progress (caller : Caller) (log : List (Turn S)) (scope : RequestScope) : Prop :=
  (scope = .ofCaller caller ∧ Unopened log) ∨ (scope = ⟨caller, true⟩ ∧ Sealed log)

/-- An attempt after others in vain is in vain too, or opens the session. -/
lemma Attempt.progress {caller : Caller} {α : Type} {log turns : List (Turn S)}
    {ending : Except RecordError α × RequestScope} (h : Attempt settings caller turns ending)
    (hlog : Unopened log) : Progress caller (log ++ turns) ending.2 := by
  cases h with
  | noMode _ =>
    refine .inl ⟨rfl, ?_⟩
    rw [List.append_nil]
    exact hlog
  | @noToken mode t e _ ht =>
    have hrequest := congrArg Reply.request ht
    have hopened := congrArg Reply.opened ht
    refine .inl ⟨rfl, List.forall_mem_append.mpr ⟨hlog, ?_⟩⟩
    exact List.forall_mem_singleton.mpr ⟨congrArg Request.opensSession hrequest, hopened⟩
  | @noSession mode t u token e _ ht hu =>
    have htried : t.request.opensSession = true ∧ t.reply.opened = false :=
      ⟨congrArg (·.request.opensSession) ht, congrArg Reply.opened ht⟩
    have hutried : u.request.opensSession = true ∧ u.reply.opened = false :=
      ⟨congrArg (·.request.opensSession) hu, congrArg Reply.opened hu⟩
    refine .inl ⟨rfl, List.forall_mem_append.mpr ⟨hlog, ?_⟩⟩
    exact List.forall_mem_cons.mpr ⟨htried, List.forall_mem_singleton.mpr hutried⟩
  | @opened mode t u token calls result _ ht hu hcalls =>
    have htried : t.request.opensSession = true ∧ t.reply.opened = false :=
      ⟨congrArg (·.request.opensSession) ht, congrArg Reply.opened ht⟩
    refine .inr ⟨rfl, log ++ [t], u, calls, List.append_cons log t (u :: calls), ?_, ?_, hcalls⟩
    · exact List.forall_mem_append.mpr ⟨hlog, List.forall_mem_singleton.mpr htried⟩
    · exact congrArg Reply.opened hu

/-- Turns in a session leave it sealed. -/
lemma Sealed.append {log calls : List (Turn S)} (h : Sealed log)
    (hcalls : ∀ x ∈ calls, x.request.opensSession = false) : Sealed (log ++ calls) := by
  obtain ⟨front, t, back, rfl, hfront, ht, hback⟩ := h
  refine ⟨front, t, back ++ calls, List.append_assoc _ _ _, hfront, ht, ?_⟩
  exact List.forall_mem_append.mpr ⟨hback, hcalls⟩

/-- Each errand makes progress. -/
lemma Progress.step {caller : Caller} {log : List (Turn S)} {scope : RequestScope}
    (h : Progress caller log scope) (e : Errand S settings) :
    Progress caller (log ++ e.turns scope) (e.ending scope).2 := by
  rcases h with ⟨rfl, hlog⟩ | ⟨rfl, hlog⟩
  · cases hneeds : e.needsStore with
    | true => exact (e.attempt_of_needsStore hneeds).progress hlog
    | false =>
      obtain ⟨hturns, hscope, -⟩ := e.settled_of_needsStore hneeds (.ofCaller caller)
      rw [hturns, hscope, List.append_nil]
      exact .inl ⟨rfl, hlog⟩
  · rw [e.scope_ending_of_connected rfl]
    exact .inr ⟨rfl, hlog.append (e.forall_turns_of_connected rfl)⟩

/-- Errands one after the other in the scope of a caller make progress. -/
theorem progress_log (caller : Caller) (errands : List (Errand S settings)) :
    Progress caller ((RequestScope.ofCaller caller).log errands)
      ((RequestScope.ofCaller caller).after errands) := by
  induction errands using List.reverseRecOn with
  | nil =>
    refine .inl ⟨rfl, ?_⟩
    intro t ht
    cases ht
  | append_singleton errands e ih =>
    rw [RequestScope.log_concat, RequestScope.after_concat]
    exact ih.step e

/-! ### The law of a scope -/

/-- Where an entry of a list stands to another one. -/
lemma mem_or_eq_or_mem_of_append_cons {α : Type} {front back before later : List α} {o t : α}
    (h : front ++ o :: back = before ++ t :: later) :
    t ∈ front ∨ (t = o ∧ later = back) ∨ (o ∈ before ∧ t ∈ back) := by
  rcases List.append_eq_append_iff.mp h with ⟨between, rfl, hback⟩ | ⟨between, rfl, hlater⟩
  · cases between with
    | nil =>
      obtain ⟨rfl, rfl⟩ := List.cons.inj hback
      exact .inr (.inl ⟨rfl, rfl⟩)
    | cons _ between =>
      obtain ⟨rfl, rfl⟩ := List.cons.inj hback
      exact .inr (.inr ⟨by simp, by simp⟩)
  · cases between with
    | nil =>
      obtain ⟨rfl, rfl⟩ := List.cons.inj hlater
      exact .inr (.inl ⟨rfl, rfl⟩)
    | cons _ between =>
      obtain ⟨rfl, rfl⟩ := List.cons.inj hlater
      exact .inl (by simp)

namespace Progress

variable {caller : Caller} {log before later : List (Turn S)} {scope : RequestScope} {t : Turn S}

/-- The scope is connected if a session has been opened. -/
lemma connected_iff (h : Progress caller log scope) :
    scope.connected = true ↔ ∃ x ∈ log, x.reply.opened = true := by
  rcases h with ⟨rfl, hlog⟩ | ⟨rfl, front, o, back, rfl, -, ho, -⟩
  · constructor
    · intro h
      cases h
    · rintro ⟨x, hx, hopened⟩
      rw [(hlog x hx).2] at hopened
      cases hopened
  · constructor
    · intro _
      exact ⟨o, by simp, ho⟩
    · intro _
      rfl

/-- A scope without a session is as it was at first. -/
lemma eq_ofCaller (h : Progress caller log scope) (hscope : scope.connected = false) :
    scope = .ofCaller caller := by
  rcases h with ⟨rfl, -⟩ | ⟨rfl, -⟩
  · rfl
  · cases hscope

/-- At most one session is opened. -/
lemma countP_opened_le (h : Progress caller log scope) : log.countP (·.reply.opened) ≤ 1 := by
  have hzero (turns : List (Turn S)) (hturns : ∀ x ∈ turns, x.reply.opened = false) :
      turns.countP (·.reply.opened) = 0 := by
    refine List.countP_eq_zero.mpr ?_
    intro x hx
    exact Bool.eq_false_iff.mp (hturns x hx)
  rcases h with ⟨-, hlog⟩ | ⟨-, front, o, back, rfl, hfront, ho, hback⟩
  · rw [hzero log fun x hx => (hlog x hx).2]
    exact Nat.zero_le 1
  · have hone : (o :: back).countP (·.reply.opened) = back.countP (·.reply.opened) + 1 :=
      List.countP_cons_of_pos ho
    have hbefore := hzero front fun x hx => (hfront x hx).2
    have hafter := hzero back fun x hx => Reply.opened_eq_false (hback x hx)
    rw [List.countP_append]
    omega

/-- What asks for neither a token nor a session comes after the opening of one. -/
lemma exists_opened_before (h : Progress caller log scope) (hlog : log = before ++ t :: later)
    (ht : t.request.opensSession = false) : ∃ x ∈ before, x.reply.opened = true := by
  rcases h with ⟨-, hunopened⟩ | ⟨-, front, o, back, rfl, hfront, ho, -⟩
  · have hmem : t ∈ log := by
      rw [hlog]
      exact List.mem_append_right before List.mem_cons_self
    rw [(hunopened t hmem).1] at ht
    cases ht
  · rcases mem_or_eq_or_mem_of_append_cons hlog with hmem | ⟨rfl, -⟩ | ⟨hmem, -⟩
    · rw [(hfront t hmem).1] at ht
      cases ht
    · rw [Reply.opened_eq_false ht] at ho
      cases ho
    · exact ⟨o, hmem, ho⟩

/-- What comes after the opening of a session asks for neither a token nor a session. -/
lemma opensSession_later (h : Progress caller log scope) (hlog : log = before ++ t :: later)
    (ht : t.reply.opened = true) : ∀ x ∈ later, x.request.opensSession = false := by
  rcases h with ⟨-, hunopened⟩ | ⟨-, front, o, back, rfl, hfront, -, hback⟩
  · have hmem : t ∈ log := by
      rw [hlog]
      exact List.mem_append_right before List.mem_cons_self
    rw [(hunopened t hmem).2] at ht
    cases ht
  · rcases mem_or_eq_or_mem_of_append_cons hlog with hmem | ⟨-, rfl⟩ | ⟨-, hmem⟩
    · rw [(hfront t hmem).2] at ht
      cases ht
    · exact hback
    · rw [Reply.opened_eq_false (hback t hmem)] at ht
      cases ht

end Progress

/-- That errands one after the other in the scope of a caller share one session: it is opened by
the first attempt that succeeds, and every attempt before it fails for itself. -/
structure OneSession (caller : Caller) (errands : List (Errand S settings)) : Prop where
  /-- At most one session is opened. -/
  once : ((RequestScope.ofCaller caller).log errands).countP (·.reply.opened) ≤ 1
  /-- The store is called only after a session has been opened. -/
  called : ∀ before t later, (RequestScope.ofCaller caller).log errands = before ++ t :: later →
    t.request.opensSession = false → ∃ x ∈ before, x.reply.opened = true
  /-- After that, no token and no session is asked for any more. -/
  settled : ∀ before t later, (RequestScope.ofCaller caller).log errands = before ++ t :: later →
    t.reply.opened = true → ∀ x ∈ later, x.request.opensSession = false
  /-- The scope is connected from then on, and never without an open session. -/
  connected : ∀ earlier later, errands = earlier ++ later →
    (((RequestScope.ofCaller caller).after earlier).connected = true ↔
      ∃ x ∈ (RequestScope.ofCaller caller).log earlier, x.reply.opened = true)
  /-- Before that, every errand that needs the store makes one attempt of its own. -/
  attempt : ∀ earlier e later, errands = earlier ++ e :: later →
    ((RequestScope.ofCaller caller).after earlier).connected = false → e.needsStore = true →
    Attempt settings caller (e.turns ((RequestScope.ofCaller caller).after earlier))
      (e.ending ((RequestScope.ofCaller caller).after earlier))
  /-- An errand that does not need the store makes none. -/
  quiet : ∀ e ∈ errands, e.needsStore = false → ∀ scope : RequestScope,
    e.turns scope = [] ∧ (e.ending scope).2 = scope ∧
      e.manager.localResult? e.call = some (e.ending scope).1
  /-- The mode is missing only for want of the caller's token or of the service's credentials. -/
  unresolved : ∀ e, settings.modeFor caller = .error e ↔
    (settings.authMode = .delegated ∧ caller.bearerToken = none ∧
      e = .unauthorized "delegated access requires the caller's bearer token") ∨
    (settings.authMode = .serviceIdentity ∧ settings.serviceIdentity = none ∧
      e = .internal "service identity credentials are not configured")

/-- **One session for each scope.**  Whatever answers the errands that run one after the other in
the scope of a caller, at most one session is opened.  Every errand that needs the store before
that makes one attempt of its own, and fails with it; none is made afterwards. -/
theorem oneSession (caller : Caller) (errands : List (Errand S settings)) :
    OneSession caller errands where
  once := (progress_log caller errands).countP_opened_le
  called before t later hlog ht := (progress_log caller errands).exists_opened_before hlog ht
  settled before t later hlog ht := (progress_log caller errands).opensSession_later hlog ht
  connected earlier _ _ := (progress_log caller earlier).connected_iff
  attempt earlier e _ _ hscope hneeds := by
    rw [(progress_log caller earlier).eq_ofCaller hscope]
    exact e.attempt_of_needsStore hneeds
  quiet e _ hneeds scope := e.settled_of_needsStore hneeds scope
  unresolved _ := ConnectionSettings.modeFor_eq_error

end RecordGateway
