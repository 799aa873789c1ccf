import RecordGateway.Proofs.Records.Contracts
import RecordGateway.Proofs.Script.Runs

/-!
# How operations open their session

Every operation of a manager either ends without the outside, or it opens a session first and then
stays in it: what follows asks for nothing but calls to the store.  So all that an operation does to
obtain a token and a session is the one attempt at its start.
-/

namespace RecordGateway

/-! ### Operations in a session -/

namespace Operation

variable {α β ε : Type}

/-- Whether an operation with an open session stays in it: it asks for nothing that opens another
one, and it leaves the scope as it is. -/
def StaysInSession (x : Operation α) : Prop :=
  ∀ history scope, scope.connected = true →
    (x.inScope scope).Keeps (fun _ r => r.opensSession = false) (fun _ result => result.2 = scope)
      history

/-- A value needs no further session. -/
lemma staysInSession_pure (a : α) : (pure a : Operation α).StaysInSession :=
  fun _ _ _ => rfl

/-- An error needs no further session. -/
lemma staysInSession_throw (e : RecordError) : (throw e : Operation α).StaysInSession :=
  fun _ _ _ => rfl

/-- A result that is at hand needs no further session. -/
lemma staysInSession_ofExcept (f : ε → RecordError) (x : Except ε α) :
    (ofExcept f x).StaysInSession := by
  cases x with
  | ok a => exact staysInSession_pure a
  | error e => exact staysInSession_throw (f e)

/-- A sequence stays in a session if both parts do. -/
lemma staysInSession_bind {x : Operation β} {f : β → Operation α} (hx : x.StaysInSession)
    (hf : ∀ b, (f b).StaysInSession) : (x >>= f).StaysInSession := by
  intro history scope hscope
  refine Script.keeps_bind.mpr ((hx history scope hscope).imp (fun _ _ h => h) ?_)
  rintro history' ⟨result, scope'⟩ rfl
  cases result with
  | ok b => exact hf b history' scope' hscope
  | error e => exact rfl

/-- A function of the result needs no further session. -/
lemma staysInSession_map {x : Operation β} {f : β → α} (hx : x.StaysInSession) :
    (f <$> x).StaysInSession := by
  rw [← bind_pure_comp]
  exact staysInSession_bind hx fun b => staysInSession_pure (f b)

/-- An operation that is caught stays in a session if its handler does. -/
lemma staysInSession_tryCatch {x : Operation α} {handle : RecordError → Operation α}
    (hx : x.StaysInSession) (hhandle : ∀ e, (handle e).StaysInSession) :
    (tryCatch x handle).StaysInSession := by
  intro history scope hscope
  refine Script.keeps_bind.mpr ((hx history scope hscope).imp (fun _ _ h => h) ?_)
  rintro history' ⟨result, scope'⟩ rfl
  cases result with
  | ok a => exact rfl
  | error e => exact hhandle e history' scope' hscope

/-- A script that opens no session. -/
lemma staysInSession_liftM {x : Script α}
    (h : ∀ history, x.Keeps (fun _ r => r.opensSession = false) (fun _ _ => True) history) :
    (liftM x : Operation α).StaysInSession := by
  intro history scope _
  refine Script.keeps_bind.mpr ?_
  refine Script.keeps_bind (x := x) (f := fun a => .done (a, scope)).mpr ?_
  exact (h history).imp (fun _ _ h => h) fun _ _ _ => rfl

/-- A script that opens no session, and whose result may be an error. -/
lemma staysInSession_ofScript {f : ε → RecordError} {x : Script (Except ε α)}
    (h : ∀ history, x.Keeps (fun _ r => r.opensSession = false) (fun _ _ => True) history) :
    (ofScript f x).StaysInSession :=
  staysInSession_bind (staysInSession_liftM h) fun _ => staysInSession_ofExcept _ _

end Operation

/-- With an open session, none is opened. -/
lemma staysInSession_acquire (settings : ConnectionSettings) :
    (acquire settings).StaysInSession := by
  rintro history ⟨caller, connected⟩ hscope
  obtain rfl : connected = true := hscope
  exact rfl

/-- The mode for a caller is missing only for want of the caller's token or of the credentials of
the service. -/
theorem ConnectionSettings.modeFor_eq_error {settings : ConnectionSettings} {caller : Caller}
    {e : CredentialError} :
    settings.modeFor caller = .error e ↔
      (settings.authMode = .delegated ∧ caller.bearerToken = none ∧
        e = .unauthorized "delegated access requires the caller's bearer token") ∨
      (settings.authMode = .serviceIdentity ∧ settings.serviceIdentity = none ∧
        e = .internal "service identity credentials are not configured") := by
  unfold modeFor
  cases settings.authMode with
  | delegated => cases caller.bearerToken <;> simp [eq_comm]
  | serviceIdentity => cases settings.serviceIdentity <;> simp [eq_comm]
  | application => simp

/-- The opening of a session as a script: a token is asked for unless the mode is missing, and a
session unless the token is. -/
theorem inScope_acquire (settings : ConnectionSettings) (caller : Caller) :
    (acquire settings).inScope (.ofCaller caller) =
      match settings.modeFor caller with
      | .error e => .done (.error (.credential e), .ofCaller caller)
      | .ok mode => .ask (.token settings.endpoint mode) fun
        | .error e => .done (.error (.credential e), .ofCaller caller)
        | .ok token => .ask (.connect token) fun
          | .error e => .done (.error (.ofStore e), .ofCaller caller)
          | .ok () => .done (.ok (), ⟨caller, true⟩) := by
  have hscope : (acquire settings).inScope (.ofCaller caller) =
      (Operation.ofExcept RecordError.credential (settings.modeFor caller) >>= fun mode => do
        let token ← Operation.ofScript RecordError.credential
          (Script.perform (.token settings.endpoint mode))
        Operation.ofScript RecordError.ofStore (Script.perform (.connect token))
        set (⟨caller, true⟩ : RequestScope)).inScope (.ofCaller caller) := rfl
  rw [hscope]
  cases settings.modeFor caller with
  | error e => rfl
  | ok mode =>
    refine congrArg (Script.ask (.token settings.endpoint mode)) (funext fun answer => ?_)
    cases answer with
    | error e => rfl
    | ok token =>
      refine congrArg (Script.ask (.connect token)) (funext fun answer => ?_)
      cases answer <;> rfl

/-- Whether an operation ends without the outside, or opens a session first and then stays in
it. -/
inductive Operation.OpensFirst {α : Type} (settings : ConnectionSettings) : Operation α → Prop
  | ofResult (result : Except RecordError α) : OpensFirst settings (.ofResult result)
  | acquire_bind {f : Unit → Operation α} :
      (∀ u, (f u).StaysInSession) → OpensFirst settings (acquire settings >>= f)

namespace Operation

variable {α β ε : Type} {settings : ConnectionSettings}

/-- What comes before the outside may fail. -/
lemma opensFirst_ofExcept_bind {f : ε → RecordError} {x : Except ε β} {g : β → Operation α}
    (h : ∀ b, (g b).OpensFirst settings) : (ofExcept f x >>= g).OpensFirst settings := by
  cases x with
  | ok b => exact h b
  | error e => exact .ofResult (.error (f e))

/-- With an open session, an operation that opens one first stays in the one that there is. -/
lemma OpensFirst.staysInSession {x : Operation α} (h : x.OpensFirst settings) :
    x.StaysInSession := by
  cases h with
  | ofResult result => exact staysInSession_ofExcept _ _
  | acquire_bind hrest => exact staysInSession_bind (staysInSession_acquire settings) hrest

variable {S : Type} [TokenSource S] {caller : Caller}

/-- In a session, an operation takes no turn that opens another one. -/
lemma StaysInSession.forall_turns {x : Operation α} (h : x.StaysInSession) {scope : RequestScope}
    (hscope : scope.connected = true) (b : Backend S) :
    ∀ t ∈ (x.inScope scope).turns b, t.request.opensSession = false := by
  intro t ht
  obtain ⟨before, after, hturns⟩ := List.append_of_mem ht
  exact (h [] scope hscope).asked hturns

/-- The turns of an operation in a new scope: none; or a request for a token, in the mode for the
caller; or after that a session is asked for with the token, and then only the store is called. -/
theorem OpensFirst.turns_cases {x : Operation α} (h : x.OpensFirst settings) (caller : Caller)
    (b : Backend S) :
    (x.inScope (.ofCaller caller)).turns b = [] ∨
      ∃ mode rest, settings.modeFor caller = .ok mode ∧
        (x.inScope (.ofCaller caller)).turns b = ⟨0, b, .token settings.endpoint mode⟩ :: rest ∧
        (rest = [] ∨ ∃ token calls,
          (TokenSource.acquire b.tokens settings.endpoint mode).2 = .ok token ∧
          rest = ⟨0, (b.answer (.token settings.endpoint mode)).1, .connect token⟩ :: calls ∧
          ∀ t ∈ calls, t.request.opensSession = false) := by
  cases h with
  | ofResult result => cases result <;> exact .inl rfl
  | @acquire_bind rest hrest =>
    rw [inScope_bind, inScope_acquire]
    cases settings.modeFor caller with
    | error e => exact .inl rfl
    | ok mode =>
      refine .inr ⟨mode, _, rfl, rfl, ?_⟩
      cases htoken : (b.answer (.token settings.endpoint mode)).2 with
      | error e => exact .inl rfl
      | ok token =>
        refine .inr ⟨token, _, htoken, rfl, ?_⟩
        cases ((b.answer (.token settings.endpoint mode)).1.answer (.connect token)).2 with
        | error e => exact List.forall_mem_nil _
        | ok _ => exact (hrest ()).forall_turns rfl _

end Operation

/-! ### Operations of a manager -/

namespace Manager

variable {D P : Type} {m : Manager D}

/-- To fetch a record needs no further session. -/
lemma staysInSession_fetch (id : Uuid) : (m.fetch id).StaysInSession := by
  refine Operation.staysInSession_bind
    (Operation.staysInSession_ofScript fun _ => ⟨rfl, fun _ => trivial⟩) fun found => ?_
  cases found with
  | none => exact Operation.staysInSession_pure _
  | some entity => exact Operation.staysInSession_map (Operation.staysInSession_ofExcept _ _)

/-- A look-up opens a session before anything else, if it asks anything. -/
lemma opensFirst_lookup (idText : String) : (m.lookup idText).OpensFirst m.settings := by
  unfold lookup
  cases idOfText? idText with
  | none => exact .ofResult (.ok none)
  | some id => exact .acquire_bind fun _ => staysInSession_fetch id

/-- A query opens a session before anything else, if it asks anything. -/
lemma opensFirst_query (request : QueryRequest) : (m.query request).OpensFirst m.settings := by
  refine Operation.opensFirst_ofExcept_bind fun native => ?_
  split
  · exact .ofResult (.ok [])
  · exact .acquire_bind fun _ => Operation.staysInSession_bind
      (Operation.staysInSession_ofScript fun _ => ⟨rfl, fun _ => trivial⟩)
      fun _ => Operation.staysInSession_ofExcept _ _

/-- A deletion opens a session before anything else, if it asks anything. -/
lemma opensFirst_delete (idText : String) : (m.delete idText).OpensFirst m.settings := by
  unfold delete
  cases idOfText? idText with
  | none => exact .ofResult (.ok false)
  | some id =>
    refine .acquire_bind fun _ => Operation.staysInSession_bind
      (Operation.staysInSession_liftM fun _ => ⟨rfl, fun _ => trivial⟩) fun answer => ?_
    split
    · exact Operation.staysInSession_pure _
    · exact Operation.staysInSession_pure _
    · exact Operation.staysInSession_throw _

section Calls

variable [DataObject D P]

/-- An insertion opens a session before anything else, if it asks anything. -/
lemma opensFirst_insert (data : D) (fresh : Uuid) :
    (m.insert data fresh).OpensFirst m.settings := by
  refine Operation.opensFirst_ofExcept_bind fun entity => ?_
  refine Operation.opensFirst_ofExcept_bind fun preset => .acquire_bind fun _ => ?_
  refine Operation.staysInSession_bind
    (Operation.staysInSession_ofScript fun _ => ⟨rfl, fun _ => trivial⟩) fun id => ?_
  refine Operation.staysInSession_bind (staysInSession_fetch id) fun found => ?_
  cases found with
  | none => exact Operation.staysInSession_throw _
  | some created => exact Operation.staysInSession_pure created

/-- A replacement in a session: the record is read, updated and read again. -/
lemma staysInSession_exchange {idText : String} (id : Uuid) (version : String) (entity : Entity) :
    (do match ← Session.retrieve m.logicalName id (.only []) with
        | none => throw (.notFound m.logicalName idText)
        | some current =>
          if current.rowVersion ≠ some version then
            throw (.conflict m.logicalName idText
              "concurrency token does not match the stored record")
          else
            Session.update entity
            match ← m.fetch id with
            | some updated => return updated
            | none => throw (.notFound m.logicalName idText) : Operation D).StaysInSession := by
  refine Operation.staysInSession_bind
    (Operation.staysInSession_ofScript fun _ => ⟨rfl, fun _ => trivial⟩) fun found => ?_
  cases found with
  | none => exact Operation.staysInSession_throw _
  | some current =>
    dsimp only
    split
    · exact Operation.staysInSession_throw _
    · refine Operation.staysInSession_bind
        (Operation.staysInSession_ofScript fun _ => ⟨rfl, fun _ => trivial⟩) fun _ => ?_
      refine Operation.staysInSession_bind (staysInSession_fetch id) fun found => ?_
      cases found with
      | none => exact Operation.staysInSession_throw _
      | some updated => exact Operation.staysInSession_pure updated

/-- A replacement opens a session before anything else, if it asks anything. -/
lemma opensFirst_replace (idText : String) (data : D) :
    (m.replace idText data).OpensFirst m.settings :=
  Operation.opensFirst_ofExcept_bind fun (id, version, entity) =>
    .acquire_bind fun _ => staysInSession_exchange id version entity

/-- A partial update opens a session before anything else, if it asks anything. -/
lemma opensFirst_patch (idText : String) (update : P) :
    (m.patch idText update).OpensFirst m.settings := by
  unfold patch lookup
  cases idOfText? idText with
  | none => exact .ofResult (.ok none)
  | some id =>
    rw [bind_assoc]
    refine .acquire_bind fun _ => Operation.staysInSession_bind (staysInSession_fetch id)
      fun current => ?_
    cases current with
    | none => exact Operation.staysInSession_pure none
    | some d =>
      -- the replacement finds the session that the look-up has opened
      refine Operation.staysInSession_tryCatch (Operation.staysInSession_map
        (opensFirst_replace idText _).staysInSession) fun e => ?_
      cases e with
      | notFound entity id => exact Operation.staysInSession_pure none
      | _ => exact Operation.staysInSession_throw _

/-- Every call ends without the outside, or opens a session first and then stays in it. -/
theorem opensFirst_perform (m : Manager D) (call : ManagerCall D P) :
    (m.perform call).OpensFirst m.settings := by
  cases call with
  | insert data fresh => exact opensFirst_insert data fresh
  | lookup idText => exact opensFirst_lookup idText
  | query request => exact opensFirst_query request
  | replace idText data => exact opensFirst_replace idText data
  | patch idText update => exact opensFirst_patch idText update
  | delete idText => exact opensFirst_delete idText

end Calls

end Manager

end RecordGateway
