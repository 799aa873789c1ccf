import RecordGateway.Proofs.Compilation.Windows
import RecordGateway.Proofs.Records.Contracts
import RecordGateway.Proofs.Script.Outcomes

/-!
# Requests that are settled locally

Some calls are settled by what they are given alone: the data has no entity, the query cannot be
compiled or asks for no rows, or a text names no record.  Such a call does not reach the outside.
Every other call opens a session first, and no failure after that is the fault of the data or of
the query; so a call that is refused for one of them has not reached the outside either.
-/

namespace RecordGateway

/-- Whether an error tells that the data or the query of a request was refused. -/
def RecordError.blamesRequest : RecordError → Bool
  | validation _ _ => true
  | query _ => true
  | _ => false

/-- The refusal of a store is never the fault of the data or of the query. -/
lemma RecordError.blamesRequest_ofStore (e : StoreError) :
    (RecordError.ofStore e).blamesRequest = false := by
  cases e <;> rfl

/-- Whether a call has data or a query that is checked first. -/
def ManagerCall.checks {D P : Type} : ManagerCall D P → Bool
  | insert _ _ => true
  | query _ => true
  | replace _ _ => true
  | _ => false

/-! ### Blameless operations -/

/-- Every script keeps the contract that asks for nothing. -/
lemma Script.keeps_true {α : Type} (x : Script α) (history : List Reply) :
    x.Keeps (fun _ _ => True) (fun _ _ => True) history := by
  induction x generalizing history with
  | done a => exact trivial
  | ask r next ih => exact ⟨trivial, fun answer => ih answer _⟩

namespace Operation

variable {α β ε : Type}

/-- Whether an operation never fails for the data or the query of a request, whatever it is
answered. -/
def Blameless (x : Operation α) : Prop :=
  ∀ history, x.Keeps (fun _ _ => True)
    (fun _ result => ∀ e, result = .error e → e.blamesRequest = false) history

/-- A value is no fault of the request. -/
lemma blameless_pure (a : α) : (pure a : Operation α).Blameless := by
  intro history
  refine keeps_pure ?_
  intro e he
  cases he

/-- An operation that fails at once does not blame the request if its error does not. -/
lemma blameless_throw {e : RecordError} (h : e.blamesRequest = false) :
    (throw e : Operation α).Blameless := by
  intro history
  refine keeps_throw ?_
  intro e' he
  obtain rfl := Except.error.inj he
  exact h

/-- A result that is at hand does not blame the request if its errors do not. -/
lemma blameless_ofExcept {f : ε → RecordError} {x : Except ε α}
    (h : ∀ e, x = .error e → (f e).blamesRequest = false) : (ofExcept f x).Blameless := by
  cases x with
  | ok a => exact blameless_pure a
  | error e => exact blameless_throw (h e rfl)

/-- A sequence of operations that do not blame the request does not blame it. -/
lemma blameless_bind {x : Operation β} {f : β → Operation α} (hx : x.Blameless)
    (hf : ∀ b, (f b).Blameless) : (x >>= f).Blameless := by
  intro history
  refine keeps_bind _ (hx history) ?_ ?_
  · intro history' b _
    exact hf b history'
  · intro history' e he e' he'
    obtain rfl := Except.error.inj he'
    exact he e rfl

/-- A function of the result blames nothing. -/
lemma blameless_map {x : Operation β} {f : β → α} (hx : x.Blameless) : (f <$> x).Blameless := by
  rw [← bind_pure_comp]
  exact blameless_bind hx fun b => blameless_pure (f b)

/-- A script whose result may be an error, which is not the fault of the data or the query. -/
lemma blameless_ofScript {f : ε → RecordError} (x : Script (Except ε α))
    (h : ∀ e, (f e).blamesRequest = false) : (ofScript f x).Blameless := by
  intro history
  refine keeps_ofScript ((x.keeps_true history).imp (fun _ _ hasks => hasks) ?_)
  intro history' result _ e he
  cases result with
  | ok a => cases he
  | error e' =>
    obtain rfl := Except.error.inj he
    exact h e'

/-- A call to the store. -/
lemma blameless_call (x : Script (Except StoreError α)) :
    (ofScript RecordError.ofStore x).Blameless :=
  blameless_ofScript x RecordError.blamesRequest_ofStore

/-- What a blameless operation leads to is no refusal of the data or of the query. -/
lemma Blameless.outcome {S : Type} [TokenSource S] {x : Operation α} (h : x.Blameless)
    (scope : RequestScope) (b : Backend S) {e : RecordError}
    (he : (x.outcome scope b).2.1 = .error e) : e.blamesRequest = false :=
  (h [] scope).run b e he

end Operation

/-- The opening of a session is blameless. -/
lemma blameless_acquire (settings : ConnectionSettings) : (acquire settings).Blameless := by
  intro history
  refine Operation.keeps_get_bind ?_
  intro scope
  cases hconnected : scope.connected with
  | true => exact Operation.blameless_pure () history
  | false =>
    have hmode : (Operation.ofExcept RecordError.credential
        (settings.modeFor scope.caller)).Blameless :=
      Operation.blameless_ofExcept fun _ _ => rfl
    have htoken (mode : AuthMode) : (Operation.ofScript RecordError.credential
        (Script.perform (.token settings.endpoint mode))).Blameless :=
      Operation.blameless_ofScript _ fun _ => rfl
    have hset : (set { scope with connected := true } : Operation Unit).Blameless := by
      intro history'
      exact Operation.keeps_set (by simp)
    refine Operation.blameless_bind hmode (fun mode => ?_) history
    refine Operation.blameless_bind (htoken mode) fun token => ?_
    exact Operation.blameless_bind (Operation.blameless_call _) fun _ => hset

namespace Manager

variable {D P : Type} {m : Manager D}

/-- A stored entity without a data object is not the caller's fault. -/
lemma blamesRequest_of_dataOf {entity : Entity} {e : RecordError}
    (h : m.dataOf entity = .error e) : e.blamesRequest = false := by
  unfold dataOf at h
  cases hdata : m.mapper.toData entity with
  | ok d =>
    rw [hdata] at h
    cases h
  | error error =>
    rw [hdata] at h
    obtain rfl := Except.error.inj h
    rfl

/-- Nor are several entities of which one has no data object. -/
lemma blamesRequest_of_mapM_dataOf {entities : List Entity} {e : RecordError}
    (h : entities.mapM m.dataOf = .error e) : e.blamesRequest = false := by
  obtain ⟨entity, -, hentity⟩ := exists_of_mapM_eq_error h
  exact blamesRequest_of_dataOf hentity

/-- To fetch a record does not blame the request. -/
lemma blameless_fetch (id : Uuid) : (m.fetch id).Blameless := by
  refine Operation.blameless_bind (Operation.blameless_call _) ?_
  intro found
  cases found with
  | none => exact Operation.blameless_pure none
  | some entity =>
    have hdata : (Operation.ofResult (m.dataOf entity)).Blameless :=
      Operation.blameless_ofExcept fun _ h => blamesRequest_of_dataOf h
    exact Operation.blameless_map hdata

/-- What follows a write: the record is read again, or is found missing. -/
lemma blameless_reread {id : Uuid} {missing : RecordError} (h : missing.blamesRequest = false) :
    (do match ← m.fetch id with
        | some d => return d
        | none => throw missing : Operation D).Blameless := by
  refine Operation.blameless_bind (blameless_fetch id) ?_
  intro found
  cases found with
  | some d => exact Operation.blameless_pure d
  | none => exact Operation.blameless_throw h

/-! ### How calls begin -/

section Calls

variable [DataObject D P]

/-- The result of a call that is settled by what it is given alone. -/
def localResult? (m : Manager D) :
    (call : ManagerCall D P) → Option (Except RecordError call.Result)
  | .insert data _ => match m.entityOf data with
    | .error e => some (.error e)
    | .ok _ => match presetId data with
      | .error e => some (.error e)
      | .ok _ => none
  | .lookup idText => if (idOfText? idText).isNone then some (.ok none) else none
  | .query request =>
    match request.compile m.mapper.toResolver m.maxPageSize m.logicalName with
    | .error e => some (.error (.query e))
    | .ok native => if native.yieldsNothing then some (.ok []) else none
  | .replace idText data => match m.replacement idText data with
    | .error e => some (.error e)
    | .ok _ => none
  | .patch idText _ => if (idOfText? idText).isNone then some (.ok none) else none
  | .delete idText => if (idOfText? idText).isNone then some (.ok false) else none

/-- How a call begins: it is no more than its local result, or it opens a session.  If the data or
the query has been checked before that, it is not to blame for anything afterwards. -/
inductive Begins (m : Manager D) (call : ManagerCall D P) : Prop
  | settled (result : Except RecordError call.Result) :
      m.localResult? call = some result → m.perform call = .ofResult result → Begins m call
  | session (rest : Unit → Operation call.Result) :
      m.localResult? call = none → m.perform call = acquire m.settings >>= rest →
      (call.checks = true → ∀ u, (rest u).Blameless) → Begins m call

/-- An insertion ends with its local result, or it opens a session. -/
lemma begins_insert (data : D) (fresh : Uuid) : m.Begins (.insert data fresh) := by
  have hperform : m.perform (.insert data fresh) = m.insert data fresh := rfl
  unfold insert at hperform
  cases hentity : m.entityOf data with
  | error e =>
    rw [hentity] at hperform
    exact .settled (.error e) (by simp only [localResult?, hentity]) hperform
  | ok entity =>
    rw [hentity] at hperform
    cases hpreset : presetId data with
    | error e =>
      rw [hpreset] at hperform
      exact .settled (.error e) (by simp only [localResult?, hentity, hpreset]) hperform
    | ok preset =>
      rw [hpreset] at hperform
      refine .session _ (by simp only [localResult?, hentity, hpreset]) hperform ?_
      intro _ _
      exact Operation.blameless_bind (Operation.blameless_call _)
        fun id => blameless_reread rfl

/-- A query ends with its local result, or it opens a session. -/
lemma begins_query (request : QueryRequest) : m.Begins (.query request : ManagerCall D P) := by
  have hperform : m.perform (.query request : ManagerCall D P) = m.query request := rfl
  unfold query at hperform
  cases hcompile : request.compile m.mapper.toResolver m.maxPageSize m.logicalName with
  | error e =>
    rw [hcompile] at hperform
    exact .settled (.error (.query e)) (by simp only [localResult?, hcompile]) hperform
  | ok native =>
    rw [hcompile] at hperform
    cases hnothing : native.yieldsNothing with
    | true =>
      refine .settled (.ok []) (by simp [localResult?, hcompile, hnothing]) ?_
      rw [hperform]
      change (if native.yieldsNothing then _ else _) = _
      rw [if_pos hnothing]
      rfl
    | false =>
      let rest : Unit → Operation (List D) := fun _ => do
        let entities ← Session.retrieveMultiple native
        .ofResult (entities.mapM m.dataOf)
      refine .session rest (by simp [localResult?, hcompile, hnothing]) ?_ ?_
      · rw [hperform]
        change (if native.yieldsNothing then _ else _) = _
        rw [if_neg (Bool.eq_false_iff.mp hnothing)]
        rfl
      · intro _ _
        exact Operation.blameless_bind (Operation.blameless_call _)
          fun entities => Operation.blameless_ofExcept fun _ h => blamesRequest_of_mapM_dataOf h

/-- A replacement ends with its local result, or it opens a session. -/
lemma begins_replace (idText : String) (data : D) : m.Begins (.replace idText data) := by
  have hperform : m.perform (.replace idText data) = m.replace idText data := rfl
  unfold replace at hperform
  cases hreplacement : m.replacement idText data with
  | error e =>
    rw [hreplacement] at hperform
    exact .settled (.error e) (by simp only [localResult?, hreplacement]) hperform
  | ok parts =>
    obtain ⟨id, version, entity⟩ := parts
    rw [hreplacement] at hperform
    refine .session _ (by simp only [localResult?, hreplacement]) hperform ?_
    intro _ _
    refine Operation.blameless_bind (Operation.blameless_call _) ?_
    intro found
    cases found with
    | none => exact Operation.blameless_throw rfl
    | some current =>
      dsimp only
      split
      · exact Operation.blameless_throw rfl
      · exact Operation.blameless_bind (Operation.blameless_call _)
          fun _ => blameless_reread rfl

/-- A call that names a record is settled at once if its text is no identifier. -/
lemma begins_named {call : ManagerCall D P} {idText : String} (nothing : call.Result)
    (rest : Uuid → Unit → Operation call.Result) (hchecks : call.checks = false)
    (hlocal : m.localResult? call = if (idOfText? idText).isNone then some (.ok nothing) else none)
    (hperform : m.perform call = match idOfText? idText with
      | none => pure nothing
      | some id => acquire m.settings >>= rest id) : m.Begins call := by
  cases hid : idOfText? idText with
  | none =>
    rw [hid] at hlocal hperform
    exact .settled (.ok nothing) hlocal hperform
  | some id =>
    rw [hid] at hlocal hperform
    refine .session (rest id) hlocal hperform ?_
    intro h
    rw [hchecks] at h
    cases h

/-- Every call is settled locally, or it opens a session first. -/
theorem begins_perform (m : Manager D) (call : ManagerCall D P) : m.Begins call := by
  cases call with
  | insert data fresh => exact begins_insert data fresh
  | query request => exact begins_query request
  | replace idText data => exact begins_replace idText data
  | lookup idText => exact begins_named none (fun id _ => m.fetch id) rfl rfl rfl
  | delete idText =>
    exact begins_named false (fun id _ => Session.delete m.logicalName id) rfl rfl rfl
  | patch idText update =>
    obtain ⟨amend, hperform, hnone⟩ : ∃ amend : Option D → Operation (Option D),
        m.perform (.patch idText update) = m.lookup idText >>= amend ∧ amend none = pure none :=
      ⟨_, rfl, rfl⟩
    refine begins_named none (fun id _ => m.fetch id >>= amend) rfl rfl ?_
    rw [hperform]
    unfold lookup
    cases idOfText? idText with
    | none => exact hnone
    | some id => exact bind_assoc _ _ _

end Calls

end Manager

/-! ### Untouched surroundings -/

namespace Operation

variable {S α : Type} [TokenSource S]

/-- That an operation does not reach the outside: it asks for no token and no session, makes no
call to the store, lets no other writer act, and leaves its backend and its scope as they are. -/
structure StaysLocal (x : Operation α) (scope : RequestScope) (b : Backend S) : Prop where
  turns_eq : (x.inScope scope).turns b = []
  fired_eq : x.fired scope b = []
  backend_eq : (x.outcome scope b).1 = b
  scope_eq : (x.outcome scope b).2.2 = scope

/-- An operation that is no more than its result stays local. -/
lemma staysLocal_ofResult (result : Except RecordError α) (scope : RequestScope) (b : Backend S) :
    (ofResult result : Operation α).StaysLocal scope b := by
  cases result with
  | ok a => exact ⟨rfl, rfl, rfl, rfl⟩
  | error e => exact ⟨rfl, rfl, rfl, rfl⟩

end Operation

namespace Manager

variable {D P S : Type} [DataObject D P] [TokenSource S] {m : Manager D}

/-- A call that is settled locally has its local result and stays local. -/
lemma staysLocal_of_localResult? {call : ManagerCall D P}
    {result : Except RecordError call.Result} (h : m.localResult? call = some result)
    (scope : RequestScope) (b : Backend S) :
    ((m.perform call).outcome scope b).2.1 = result ∧ (m.perform call).StaysLocal scope b := by
  cases m.begins_perform call with
  | settled result' hlocal hperform =>
    obtain rfl : result' = result := Option.some.inj (hlocal.symm.trans h)
    rw [hperform]
    refine ⟨?_, Operation.staysLocal_ofResult result' scope b⟩
    cases result' <;> rfl
  | session rest hlocal _ _ =>
    rw [hlocal] at h
    cases h

/-- A call that is refused for its data or its query is settled locally. -/
lemma localResult?_of_blamesRequest {call : ManagerCall D P} (hchecks : call.checks = true)
    {scope : RequestScope} {b : Backend S} {e : RecordError}
    (he : ((m.perform call).outcome scope b).2.1 = .error e) (hblames : e.blamesRequest = true) :
    ∃ result, m.localResult? call = some result := by
  cases m.begins_perform call with
  | settled result hlocal _ => exact ⟨result, hlocal⟩
  | session rest _ hperform hrest =>
    have hblameless : (m.perform call).Blameless := by
      rw [hperform]
      exact Operation.blameless_bind (blameless_acquire m.settings) (hrest hchecks)
    rw [hblameless.outcome scope b he] at hblames
    cases hblames

/-- That requests which can be settled locally never reach the outside. -/
structure SettlesLocally (m : Manager D) (scope : RequestScope) (b : Backend S) : Prop where
  /-- An insertion, a replacement or a query that is refused for its data or its query. -/
  refused : ∀ call : ManagerCall D P, call.checks = true → ∀ e,
    ((m.perform call).outcome scope b).2.1 = .error e → e.blamesRequest = true →
    (m.perform call).StaysLocal scope b
  /-- A look-up under a text that is no identifier. -/
  lookup : ∀ idText, idOfText? idText = none →
    ((m.lookup idText).outcome scope b).2.1 = .ok none ∧ (m.lookup idText).StaysLocal scope b
  /-- A partial update under a text that is no identifier. -/
  patch : ∀ idText (update : P), idOfText? idText = none →
    ((m.patch idText update).outcome scope b).2.1 = .ok none ∧
      (m.patch idText update).StaysLocal scope b
  /-- A deletion under a text that is no identifier. -/
  delete : ∀ idText, idOfText? idText = none →
    ((m.delete idText).outcome scope b).2.1 = .ok false ∧ (m.delete idText).StaysLocal scope b
  /-- A query for no rows. -/
  query : ∀ request native,
    request.compile m.mapper.toResolver m.maxPageSize m.logicalName = .ok native →
    request.top = some 0 ∨ native.yieldsNothing = true →
    ((m.query request).outcome scope b).2.1 = .ok [] ∧ (m.query request).StaysLocal scope b

/-- **Requests that are settled locally never reach the outside.**  In every scope and with every
backend, an insertion, a replacement or a query that is refused for its data or its query, a call
under a text that names no record, and a query for no rows ask for no token, no session and nothing
of the store, and leave everything as it is. -/
theorem settlesLocally (m : Manager D) (scope : RequestScope) (b : Backend S) :
    m.SettlesLocally (P := P) scope b where
  refused call hchecks e he hblames := by
    obtain ⟨result, hlocal⟩ := localResult?_of_blamesRequest hchecks he hblames
    exact (staysLocal_of_localResult? hlocal scope b).2
  lookup idText hid := by
    have hlocal : m.localResult? (.lookup idText : ManagerCall D P) = some (.ok none) := by
      simp [localResult?, hid]
    exact staysLocal_of_localResult? hlocal scope b
  patch idText update hid := by
    have hlocal : m.localResult? (.patch idText update) = some (.ok none) := by
      simp [localResult?, hid]
    exact staysLocal_of_localResult? hlocal scope b
  delete idText hid := by
    have hlocal : m.localResult? (.delete idText : ManagerCall D P) = some (.ok false) := by
      simp [localResult?, hid]
    exact staysLocal_of_localResult? hlocal scope b
  query request native hcompile htop := by
    have hnothing : native.yieldsNothing = true := by
      rcases htop with htop | hnothing
      · exact QueryRequest.yieldsNothing_of_compile htop hcompile
      · exact hnothing
    have hlocal : m.localResult? (.query request : ManagerCall D P) = some (.ok []) := by
      simp [localResult?, hcompile, hnothing]
    exact staysLocal_of_localResult? hlocal scope b

end Manager

end RecordGateway
