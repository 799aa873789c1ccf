import RecordGateway.Data.Kind
import RecordGateway.Proofs.Script.Traces
import RecordGateway.Records.Manager

/-!
# Contracts of record operations

Which requests the operations of a manager ask, and after which answers.  A replacement writes
only the entity that its data object gives, and succeeds only after the store has applied that
update; a partial update writes what it makes of the record that it has read whole before.
-/

namespace RecordGateway

/-! ### Calls -/

/-- A call of an operation of a manager. -/
inductive ManagerCall (D P : Type) where
  | insert (data : D) (fresh : Uuid)
  | lookup (idText : String)
  | query (request : QueryRequest)
  | replace (idText : String) (data : D)
  | patch (idText : String) (update : P)
  | delete (idText : String)

/-- What the operation that is called results in. -/
abbrev ManagerCall.Result {D P : Type} : ManagerCall D P → Type
  | insert _ _ => D
  | lookup _ => Option D
  | query _ => List D
  | replace _ _ => D
  | patch _ _ => Option D
  | delete _ => Bool

/-- Whether a call may ask for an update. -/
def ManagerCall.rewrites {D P : Type} : ManagerCall D P → Bool
  | replace _ _ => true
  | patch _ _ => true
  | _ => false

/-- The record that a replacement or a partial update returns. -/
def ManagerCall.rewritten? {D P : Type} :
    (c : ManagerCall D P) → Except RecordError c.Result → Option D
  | replace _ _, .ok d => some d
  | patch _ _, .ok found => found
  | _, _ => none

/-- A replacement that returns no record fails. -/
lemma ManagerCall.error_of_rewritten?_eq_none {D P : Type} {c : ManagerCall D P}
    {idText : String} {data : D} {result : Except RecordError c.Result}
    (hcall : c = .replace idText data) (h : c.rewritten? result = none) :
    ∃ e, result = .error e := by
  subst hcall
  cases result with
  | ok d => cases h
  | error e => exact ⟨e, rfl⟩

/-- Whether a call replaces a record by a data object: by the one that it is given, or by the one
that a partial update makes of another. -/
inductive ManagerCall.Replaces {D P : Type} [DataObject D P] : ManagerCall D P → String → D → Prop
  | replace {idText : String} {data : D} : Replaces (.replace idText data) idText data
  | patch {idText : String} {update : P} (d : D) :
    Replaces (.patch idText update) idText (DataObject.applyPatch d update)

/-- The operation that is called. -/
def Manager.perform {D P : Type} [DataObject D P] (m : Manager D) :
    (c : ManagerCall D P) → Operation c.Result
  | .insert data fresh => m.insert data fresh
  | .lookup idText => m.lookup idText
  | .query request => m.query request
  | .replace idText data => m.replace idText data
  | .patch idText update => m.patch idText update
  | .delete idText => m.delete idText

/-- A manager of a kind. -/
def RecordKind.manager (k : RecordKind) (logicalName : String) (settings : ConnectionSettings)
    (maxPageSize : UInt32) : Manager k.Data :=
  ⟨logicalName, k.mapper, settings, maxPageSize⟩

/-- The settings of an application that opens its sessions in its own name. -/
def ConnectionSettings.ofApplication : ConnectionSettings where
  endpoint := ⟨.http, "", .domain "store", none, [], none, none⟩
  authMode := .application
  serviceIdentity := none

/-- The application's manager of companies. -/
def Account.manager : Manager Account :=
  RecordKind.account.manager logicalName .ofApplication 50

/-- The application's manager of persons. -/
def Contact.manager : Manager Contact :=
  RecordKind.contact.manager logicalName .ofApplication 50

/-! ### Operations -/

variable {D P : Type} {asks : List Reply → Request → Prop} {history : List Reply}

/-- The opening of a session asks nothing else. -/
lemma keeps_acquire {settings : ConnectionSettings}
    (hasks : ∀ history r, r.opensSession = true → asks history r) :
    (acquire settings).Keeps asks (fun history' _ => Extends Request.opensSession history history')
      history := by
  refine Operation.keeps_get_bind fun scope => ?_
  cases hscope : scope.connected with
  | true => exact Operation.keeps_pure .refl
  | false =>
    refine Operation.keeps_bind (fun history' _ => Extends Request.opensSession history history')
      (Operation.keeps_ofExcept .refl) (fun _ mode h => ?_) fun _ _ h => h
    refine Operation.keeps_bind (fun history' _ => Extends Request.opensSession history history')
      (Operation.keeps_ofScript (Script.keeps_perform (hasks _ _ rfl) fun _ => h.snoc rfl))
      (fun _ token h => ?_) fun _ _ h => h
    exact Operation.keeps_bind (fun history' _ => Extends Request.opensSession history history')
      (Operation.keeps_ofScript (Script.keeps_perform (hasks _ _ rfl) fun _ => h.snoc rfl))
      (fun _ _ h => Operation.keeps_set h) fun _ _ h => h

namespace Manager

variable {m : Manager D} {id : Uuid}

/-- A data object is made of an entity by the mapper of the manager. -/
lemma dataOf_eq_ok {entity : Entity} {d : D} :
    m.dataOf entity = .ok d ↔ m.mapper.toData entity = .ok d :=
  mapError_eq_ok

/-- The data object of a record comes from the answer to one request, which reads the record
whole. -/
lemma keeps_fetch (hasks : asks history (.retrieve m.logicalName id .all)) :
    (m.fetch id).Keeps asks (fun history' result => ∃ answer,
      history' = history ++ [⟨.retrieve m.logicalName id .all, answer⟩] ∧
      ∀ d, result = .ok (some d) → ∃ entity, answer = .ok (some entity) ∧ m.dataOf entity = .ok d)
      history := by
  refine Operation.keeps_bind (fun history' result => ∃ answer,
    history' = history ++ [⟨.retrieve m.logicalName id .all, answer⟩] ∧
    result = answer.mapError .ofStore) (Operation.keeps_ofScript
      (Script.keeps_perform hasks fun answer => ⟨answer, rfl, rfl⟩)) ?_ ?_
  · rintro _ found ⟨answer, rfl, hfound⟩
    cases found with
    | none => exact Operation.keeps_pure ⟨answer, rfl, by simp⟩
    | some entity =>
      refine Operation.keeps_map (Operation.keeps_ofExcept ⟨answer, rfl, fun d hd => ?_⟩)
      cases hdata : m.dataOf entity with
      | error e => simp [hdata, Except.mapError, Except.map] at hd
      | ok d' =>
        obtain rfl : d' = d := by simpa [hdata, Except.mapError, Except.map] using hd
        cases answer with
        | error e => simp [Except.mapError] at hfound
        | ok found =>
          obtain rfl : some entity = found := by simpa [Except.mapError] using hfound
          exact ⟨entity, rfl, hdata⟩
  · rintro _ e ⟨answer, rfl, -⟩
    exact ⟨answer, rfl, by simp⟩

/-- A record that is looked up has been read whole by the last request. -/
theorem keeps_lookup {idText : String}
    (hlooks : ∀ history r, r.looks = true → asks history r) :
    (m.lookup idText).Keeps asks (fun history' result => ∀ d, result = .ok (some d) →
      ∃ id before entity, idOfText? idText = some id ∧
        Extends Request.opensSession history before ∧
        history' = before ++ [⟨.retrieve m.logicalName id .all, .ok (some entity)⟩] ∧
        m.dataOf entity = .ok d) history := by
  unfold lookup
  cases hid : idOfText? idText with
  | none => exact Operation.keeps_pure (by simp)
  | some id =>
    refine Operation.keeps_bind _
      (keeps_acquire fun _ r h => hlooks _ r (Request.looks_of_opensSession h))
      (fun before _ hbefore => ?_) (fun _ _ _ => by simp)
    refine (keeps_fetch (hlooks _ _ rfl)).imp (fun _ _ h => h) ?_
    rintro _ result ⟨answer, rfl, hanswer⟩ d rfl
    obtain ⟨entity, rfl, hdata⟩ := hanswer d rfl
    exact ⟨id, before, entity, rfl, hbefore, rfl, hdata⟩

section Replace

variable [DataObject D P]

/-- The entity of a data object is of the manager's kind. -/
lemma logicalName_of_entityOf {data : D} {entity : Entity} (h : m.entityOf data = .ok entity) :
    entity.logicalName = m.logicalName := by
  unfold entityOf at h
  split at h
  · cases h
  · split at h
    · cases h
      assumption
    · cases h

/-- The entity of a data object is the one that the mapper makes of it. -/
lemma toEntity_of_entityOf {data : D} {entity : Entity} (h : m.entityOf data = .ok entity) :
    m.mapper.toEntity data = .ok entity := by
  unfold entityOf at h
  split at h
  · cases h
  · split at h
    · cases h
      assumption
    · cases h

/-- A replacement is of the record that is named, at the version that the data object carries, and
writes the entity of the data object. -/
theorem exists_of_replacement {idText : String} {data : D} {version : String} {entity : Entity}
    (h : m.replacement idText data = .ok (id, version, entity)) :
    idOfText? idText = some id ∧ DataObject.version data = some version ∧
      ∃ mapped, m.entityOf data = .ok mapped ∧
        entity = { mapped with id := some id, rowVersion := some version } := by
  unfold replacement at h
  cases hid : idOfText? idText with
  | none => simp [hid] at h
  | some named =>
    simp only [hid] at h
    split at h
    · cases h
    · cases hversion : givenVersion? data with
      | none => simp [hversion] at h
      | some token =>
        cases hentity : m.entityOf data with
        | error e => simp [hversion, hentity, bind, Except.bind] at h
        | ok mapped =>
          simp only [hversion, hentity, bind, Except.bind, Except.ok.injEq, Prod.mk.injEq] at h
          obtain ⟨rfl, rfl, rfl⟩ := h
          exact ⟨rfl, (Option.filter_eq_some_iff.mp hversion).1, mapped, rfl, rfl⟩

/-- The entity of a replacement is of the manager's kind, and names the record and the version. -/
theorem replacement_eq_ok {idText : String} {data : D}
    {version : String} {entity : Entity}
    (h : m.replacement idText data = .ok (id, version, entity)) :
    idOfText? idText = some id ∧ DataObject.version data = some version ∧
      entity.logicalName = m.logicalName ∧ entity.id = some id ∧
      entity.rowVersion = some version := by
  obtain ⟨hid, hversion, mapped, hentity, rfl⟩ := exists_of_replacement h
  have hname : mapped.logicalName = m.logicalName := logicalName_of_entityOf hentity
  exact ⟨hid, hversion, hname, rfl, rfl⟩

/-- A replacement asks for one update, of the entity that the data object gives, and has not read
the record whole before.  It succeeds only after that update. -/
theorem keeps_replace {idText : String} {data : D}
    (hlooks : ∀ history r, r.looks = true → asks history r)
    (hupdate : ∀ history' id version entity,
      m.replacement idText data = .ok (id, version, entity) →
      Extends Request.probes history history' → asks history' (.update entity)) :
    (m.replace idText data).Keeps asks (fun history' result => ∀ d, result = .ok d →
      ∃ x ∈ history', x.updated?.isSome = true) history := by
  refine Operation.keeps_bind
    (fun history' result => history = history' ∧ result = m.replacement idText data)
    (Operation.keeps_ofExcept ⟨rfl, by cases m.replacement idText data <;> rfl⟩) ?_
    (fun _ _ _ => by simp)
  rintro _ ⟨id, version, entity⟩ ⟨rfl, hreplacement⟩
  refine Operation.keeps_bind _
    (keeps_acquire fun _ r h => hlooks _ r (Request.looks_of_opensSession h))
    (fun opened _ hopened => ?_) (fun _ _ _ => by simp)
  -- up to the update nothing is read whole, and this is what `hupdate` is told
  have hprobed := hopened.mono fun _ => Request.probes_of_opensSession
  refine Operation.keeps_bind (fun history' _ => Extends Request.probes history history')
    (Operation.keeps_ofScript (Script.keeps_perform (hlooks _ _ rfl) fun _ => hprobed.snoc rfl))
    (fun probed found hprobed => ?_) (fun _ _ _ => by simp)
  cases found with
  | none => exact Operation.keeps_throw (by simp)
  | some current =>
    dsimp only
    split
    · exact Operation.keeps_throw (by simp)
    · refine Operation.keeps_bind (fun history' result => ∃ answer,
        history' = probed ++ [⟨.update entity, answer⟩] ∧ result = answer.mapError .ofStore)
        (Operation.keeps_ofScript (Script.keeps_perform
          (hupdate _ _ _ _ hreplacement.symm hprobed) fun answer => ⟨answer, rfl, rfl⟩))
        ?_ (fun _ _ _ => by simp)
      rintro _ _ ⟨answer, rfl, hanswer⟩
      have happlied : answer = .ok () := by
        cases answer with
        | ok _ => rfl
        | error e => simp [Except.mapError] at hanswer
      subst happlied
      -- reading the record again comes after the update, which stays in the history
      refine Operation.keeps_bind (fun history' _ => ∃ x ∈ history', x.updated?.isSome = true)
        ((keeps_fetch (hlooks _ _ rfl)).imp (fun _ _ h => h) ?_) ?_ (fun _ _ _ => by simp)
      · rintro _ _ ⟨answer, rfl, -⟩
        exact ⟨⟨.update entity, .ok ()⟩, by simp, rfl⟩
      · intro final updated hfinal
        cases updated with
        | none => exact Operation.keeps_throw (by simp)
        | some d => exact Operation.keeps_pure fun _ _ => hfinal

/-- A partial update asks for one update, of the entity that it makes of the one record that it
has read whole.  It returns a record only after that update. -/
theorem keeps_patch {idText : String} {update : P}
    (hlooks : ∀ history r, r.looks = true → asks history r)
    (hupdate : ∀ before history' id entity d target version written,
      idOfText? idText = some id → m.dataOf entity = .ok d →
      m.replacement idText (DataObject.applyPatch d update) = .ok (target, version, written) →
      Extends Request.opensSession history before →
      Extends Request.probes
        (before ++ [⟨.retrieve m.logicalName id .all, .ok (some entity)⟩]) history' →
      asks history' (.update written)) :
    (m.patch idText update).Keeps asks (fun history' result => ∀ d, result = .ok (some d) →
      ∃ x ∈ history', x.updated?.isSome = true) history := by
  refine Operation.keeps_bind _ (keeps_lookup hlooks) (fun fetched current hfetched => ?_)
    (fun _ _ _ => by simp)
  cases current with
  | none => exact Operation.keeps_pure (by simp)
  | some d =>
    obtain ⟨id, before, entity, hid, hbefore, rfl, hdata⟩ := hfetched d rfl
    refine Operation.keeps_tryCatch (fun history' result => ∀ d, result = .ok (some d) →
      ∃ x ∈ history', x.updated?.isSome = true) (Operation.keeps_map ?_)
      (fun _ _ h => h) (fun _ e _ => ?_)
    · refine (keeps_replace hlooks fun _ _ _ _ hreplacement hprobed =>
        hupdate _ _ _ _ _ _ _ _ hid hdata hreplacement hbefore hprobed).imp (fun _ _ h => h) ?_
      intro _ result h d hd
      cases result with
      | ok d => exact h d rfl
      | error e => simp [Except.map] at hd
    · cases e <;>
        first
        | exact Operation.keeps_pure (by simp)
        | exact Operation.keeps_throw (by simp)

end Replace

/-! ### Requests of the other operations -/

section Asks

variable {kind : Request → Prop}

/-- To connect asks only what opens a session. -/
lemma asks_connect (h : ∀ r, r.opensSession = true → kind r) : m.connect.Asks kind :=
  fun _ => (keeps_acquire fun _ r hr => h r hr).imp (fun _ _ h => h) fun _ _ _ => trivial

/-- To fetch a record asks only for the whole record. -/
lemma asks_fetch {id : Uuid} (h : kind (.retrieve m.logicalName id .all)) :
    (m.fetch id).Asks kind :=
  fun _ => (keeps_fetch h).imp (fun _ _ h => h) fun _ _ _ => trivial

/-- To look up a record asks nothing but looks. -/
lemma asks_lookup {idText : String} (h : ∀ r, r.looks = true → kind r) :
    (m.lookup idText).Asks kind :=
  fun _ => (keeps_lookup fun _ r hr => h r hr).imp (fun _ _ h => h) fun _ _ _ => trivial

/-- An insertion looks and asks for one creation. -/
lemma asks_insert [DataObject D P] {data : D} {fresh : Uuid} (hlooks : ∀ r, r.looks = true → kind r)
    (hcreate : ∀ e, kind (.create e fresh)) : (m.insert data fresh).Asks kind := by
  refine Operation.asks_bind (Operation.asks_ofExcept _ _) fun entity => ?_
  refine Operation.asks_bind (Operation.asks_ofExcept _ _) fun preset => ?_
  refine Operation.asks_bind (asks_connect fun r hr => hlooks r (Request.looks_of_opensSession hr))
    fun _ => ?_
  refine Operation.asks_bind
    (Operation.asks_bind (Operation.asks_lift (hcreate _)) fun _ => Operation.asks_ofExcept _ _)
    fun id => ?_
  refine Operation.asks_bind (asks_fetch (hlooks _ rfl)) fun found => ?_
  cases found with
  | none => exact Operation.asks_throw _
  | some created => exact Operation.asks_pure created

/-- A query asks for one selection in a session. -/
lemma asks_query {request : QueryRequest} (hopens : ∀ r, r.opensSession = true → kind r)
    (hselect : ∀ q, kind (.retrieveMultiple q)) : (m.query request).Asks kind := by
  refine Operation.asks_bind (Operation.asks_ofExcept _ _) fun native => ?_
  split
  · exact Operation.asks_pure _
  · refine Operation.asks_bind (asks_connect hopens) fun _ => ?_
    refine Operation.asks_bind ?_ fun entities => Operation.asks_ofExcept _ _
    exact Operation.asks_bind (Operation.asks_lift (hselect _)) fun _ =>
      Operation.asks_ofExcept _ _

/-- A deletion asks for nothing else in a session. -/
lemma asks_delete {idText : String} (hopens : ∀ r, r.opensSession = true → kind r)
    (hdelete : ∀ id, kind (.delete m.logicalName id)) : (m.delete idText).Asks kind := by
  unfold delete
  cases idOfText? idText with
  | none => exact Operation.asks_pure _
  | some id =>
    refine Operation.asks_bind (asks_connect hopens) fun _ => ?_
    refine Operation.asks_bind (Operation.asks_lift (hdelete id)) fun answer => ?_
    split
    · exact Operation.asks_pure _
    · exact Operation.asks_pure _
    · exact Operation.asks_throw _

end Asks

/-! ### All calls -/

/-- What holds of the history and the result of a call in the end: a replacement that succeeds,
and a partial update that returns a record, has had an update applied. -/
def Ensures (call : ManagerCall D P) (history : List Reply)
    (result : Except RecordError call.Result) : Prop :=
  ∀ d, call.rewritten? result = some d → ∃ x ∈ history, x.updated?.isSome = true

section Perform

variable [DataObject D P]

/-- What a call may ask after a history.  A replacement looks and asks for the update of its data
object; a partial update looks and asks for the update that it makes of the one record that it has
read whole; the other operations ask for no update. -/
def Allows (m : Manager D) (call : ManagerCall D P) (history : List Reply) (r : Request) : Prop :=
  match call with
  | .replace idText data => r.looks = true ∨ ∃ id version e, r = .update e ∧
      m.replacement idText data = .ok (id, version, e)
  | .patch idText update => r.looks = true ∨ ∃ before id entity d version e, r = .update e ∧
      idOfText? idText = some id ∧ m.dataOf entity = .ok d ∧
      m.replacement idText (DataObject.applyPatch d update) = .ok (id, version, e) ∧
      Extends Request.opensSession [] before ∧
      Extends Request.probes
        (before ++ [⟨.retrieve m.logicalName id .all, .ok (some entity)⟩]) history
  | _ => ∀ e, r ≠ .update e

/-- A replacement and a partial update look, or ask for an update. -/
lemma looks_or_update_of_allows {m : Manager D} {call : ManagerCall D P} {history : List Reply}
    {r : Request} (hcall : call.rewrites = true) (h : m.Allows call history r) :
    r.looks = true ∨ ∃ e, r = .update e := by
  cases call with
  | replace idText data => exact h.imp_right fun ⟨_, _, e, hr, _⟩ => ⟨e, hr⟩
  | patch idText update => exact h.imp_right fun ⟨_, _, _, _, _, e, hr, _⟩ => ⟨e, hr⟩
  | insert data fresh => cases hcall
  | lookup idText => cases hcall
  | query request => cases hcall
  | delete idText => cases hcall

/-- An update that a call may ask for is the one of a replacement. -/
lemma replaces_of_allows {m : Manager D} {call : ManagerCall D P} {history : List Reply}
    {e : Entity} (h : m.Allows call history (.update e)) :
    ∃ idText data id version, call.Replaces idText data ∧
      m.replacement idText data = .ok (id, version, e) := by
  cases call with
  | replace idText data =>
    obtain h | ⟨id, version, _, ⟨⟩, hreplacement⟩ := h
    · cases h
    · exact ⟨idText, data, id, version, .replace, hreplacement⟩
  | patch idText update =>
    obtain h | ⟨-, id, -, d, version, _, ⟨⟩, -, -, hreplacement, -⟩ := h
    · cases h
    · exact ⟨idText, _, id, version, .patch d, hreplacement⟩
  | insert data fresh => exact absurd rfl (h e)
  | lookup idText => exact absurd rfl (h e)
  | query request => exact absurd rfl (h e)
  | delete idText => exact absurd rfl (h e)

/-- Every call keeps its contract. -/
theorem keeps_perform (m : Manager D) (call : ManagerCall D P) :
    (m.perform call).Keeps (m.Allows call) (Ensures call) [] := by
  cases call with
  | insert data fresh =>
    have h : (m.insert data fresh).Asks fun r => ∀ e, r ≠ .update e :=
      asks_insert (fun _ => Request.ne_update_of_looks) fun _ _ => nofun
    exact (h []).imp (fun _ _ h => h) fun _ _ _ => nofun
  | lookup idText =>
    have h : (m.lookup idText).Asks fun r => ∀ e, r ≠ .update e :=
      asks_lookup fun _ => Request.ne_update_of_looks
    exact (h []).imp (fun _ _ h => h) fun _ _ _ => nofun
  | query request =>
    have h : (m.query request).Asks fun r => ∀ e, r ≠ .update e :=
      asks_query (fun _ hr => Request.ne_update_of_looks (Request.looks_of_opensSession hr))
        fun _ _ => nofun
    exact (h []).imp (fun _ _ h => h) fun _ _ _ => nofun
  | replace idText data =>
    refine (keeps_replace (fun _ _ h => .inl h) fun _ id version entity h _ =>
      .inr ⟨id, version, entity, rfl, h⟩).imp (fun _ _ h => h) fun _ result h d hd => ?_
    cases result with
    | ok d' => exact h d' rfl
    | error e => cases hd
  | patch idText update =>
    refine (keeps_patch (fun _ _ h => .inl h) ?_).imp (fun _ _ h => h) fun _ result h d hd => ?_
    · intro before history' id entity d target version written hid hdata hreplacement hbefore
        hprobed
      obtain rfl : id = target :=
        Option.some.inj (hid.symm.trans (replacement_eq_ok hreplacement).1)
      exact .inr ⟨before, id, entity, d, version, written, rfl, hid, hdata, hreplacement, hbefore,
        hprobed⟩
    · cases result with
      | ok found => exact h d (congrArg Except.ok hd)
      | error e => cases hd
  | delete idText =>
    have h : (m.delete idText).Asks fun r => ∀ e, r ≠ .update e :=
      asks_delete (fun _ hr => Request.ne_update_of_looks (Request.looks_of_opensSession hr))
        fun _ _ => nofun
    exact (h []).imp (fun _ _ h => h) fun _ _ _ => nofun

end Perform

end Manager

end RecordGateway
