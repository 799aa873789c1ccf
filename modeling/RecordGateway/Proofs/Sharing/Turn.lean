import RecordGateway.Proofs.Script.Traces
import RecordGateway.Proofs.Store.Versions
import RecordGateway.Script.Backend

/-!
# Turns with a backend

One request of a client and its answer, together with the store that the request finds and the
store that it leaves.  A call finds what the other writers leave that are due before it; a call
that a fault keeps from reaching the store finds and leaves the store as it is.
-/

namespace RecordGateway

/-- The kind of call that a request makes to the store. -/
def Request.kind? : Request → Option CallKind
  | token _ _ => none
  | connect _ => none
  | create _ _ => some .create
  | retrieve _ _ _ => some .retrieve
  | retrieveMultiple _ => some .retrieveMultiple
  | update _ => some .update
  | delete _ _ => some .delete

namespace Backend

variable {S : Type} (b : Backend S) (r : Request)

/-- Whether no fault keeps a request of a kind from reaching the store. -/
def reaches (point : FaultPoint) : Bool :=
  (b.meet point).2.isNone

/-- The store at the moment at which a request takes effect. -/
def found : Store :=
  match r.kind? with
  | some kind => if b.reaches (.call kind) then b.store.enter kind else b.store
  | none => b.store

/-- A request that a fault meets has the error of the fault, and any other has the answer of the
store. -/
lemma call_cases {α : Type} (point : FaultPoint) (f : Store → Store × Except StoreError α) :
    (b.reaches point = false ∧ (∃ e, (b.call point f).2 = .error e) ∧
        (b.call point f).1.store = b.store) ∨
      (b.reaches point = true ∧ (b.call point f).2 = (f b.store).2 ∧
        (b.call point f).1.store = (f b.store).1) := by
  unfold reaches call meet
  cases b.faults.find? (·.isDue point) with
  | none => exact .inr ⟨rfl, rfl, rfl⟩
  | some fault => exact .inl ⟨rfl, ⟨fault.error, rfl⟩, rfl⟩

/-- A request leaves what the store makes of it, unless a fault meets it. -/
lemma store_call {α : Type} (point : FaultPoint) (f : Store → Store × Except StoreError α) :
    (b.call point f).1.store = if b.reaches point then (f b.store).1 else b.store := by
  rcases b.call_cases point f with ⟨hfault, -, hstore⟩ | ⟨hreaches, -, hstore⟩
  · simp [hfault, hstore]
  · simp [hreaches, hstore]

/-- A call finds the store after the other writers, unless a fault meets it, and then the store
develops as the call makes it. -/
lemma develops_call {α : Type} {kind : CallKind} {f : Store → Store × Except StoreError α}
    (hf : ∀ s : Store, (s.enter kind).Develops (f s).1) :
    (if b.reaches (.call kind) then b.store.enter kind else b.store).Develops
      (b.call (.call kind) f).1.store := by
  rw [store_call]
  split
  · exact hf b.store
  · exact .refl

/-- The store develops until a request takes effect. -/
lemma develops_found : b.store.Develops (b.found r) := by
  unfold found
  split
  · split
    · exact Store.develops_enter _ _
    · exact .refl
  · exact .refl

/-- The store develops when a request takes effect. -/
lemma develops_answer [TokenSource S] : (b.found r).Develops (b.answer r).1.store := by
  cases r with
  | token endpoint mode => exact .refl
  | connect token =>
    rw [answer, store_call]
    split
    · exact Store.develops_connect _ _
    · exact .refl
  | create e fresh => exact b.develops_call fun s => s.develops_create e fresh
  | retrieve logicalName id columns => exact b.develops_call fun s => .refl
  | retrieveMultiple q => exact b.develops_call fun s => .refl
  | update e => exact b.develops_call fun s => s.develops_update e
  | delete logicalName id => exact b.develops_call fun s => s.develops_delete logicalName id

end Backend

/-- A request of a client to a backend. -/
structure Turn (S : Type) where
  /-- The number of the client. -/
  client : Nat
  /-- The backend right before the request. -/
  backend : Backend S
  request : Request

namespace Turn

variable {S : Type}

/-- The store that the request finds. -/
def found (x : Turn S) : Store :=
  x.backend.found x.request

/-- The store develops until a request takes effect. -/
lemma develops_found (x : Turn S) : x.backend.store.Develops x.found :=
  x.backend.develops_found x.request

variable [TokenSource S]

/-- The request with its answer. -/
def reply (x : Turn S) : Reply :=
  ⟨x.request, (x.backend.answer x.request).2⟩

/-- The store that the request leaves. -/
def left (x : Turn S) : Store :=
  (x.backend.answer x.request).1.store

/-- The entity of an update that the store has applied. -/
def updated? (x : Turn S) : Option Entity :=
  x.reply.updated?

/-- The token of a version-checked update that the store has applied. -/
def checkedToken? (x : Turn S) : Option String :=
  x.updated?.bind Entity.rowVersion

/-- Whether the request has left the records and the versions as it found them. -/
def Quiet (x : Turn S) : Prop :=
  x.left.records = x.found.records ∧ x.left.lastVersion = x.found.lastVersion

variable {x : Turn S}

/-- The store develops when a request takes effect. -/
lemma develops_left (x : Turn S) : x.found.Develops x.left :=
  x.backend.develops_answer x.request

/-- An update has the outcome that the store gives it, unless a fault meets it. -/
lemma update_cases {e : Entity} (hrequest : x.request = .update e) :
    (x.backend.reaches (.call .update) = false ∧ x.updated? = none ∧ x.left = x.found) ∨
      (x.backend.reaches (.call .update) = true ∧
        x.found = x.backend.store.enter .update ∧ x.left = (x.backend.store.update e).1 ∧
        (x.updated? = some e ↔ (x.backend.store.update e).2 = .ok ())) := by
  obtain ⟨client, b, request⟩ := x
  obtain rfl : request = .update e := hrequest
  have hupdated (answer : Except StoreError Unit) :
      (Reply.mk (.update e) answer).updated? = some e ↔ answer = .ok () := by
    rw [Reply.updated?_eq_some, Reply.mk.injEq, heq_eq_eq, and_iff_right rfl]
  rcases b.call_cases (.call .update) fun s => s.update e with
    ⟨hfault, ⟨error, herror⟩, hstore⟩ | ⟨hreaches, hcall, hstore⟩
  · refine .inl ⟨hfault, ?_, ?_⟩
    · exact congrArg (fun answer => (Reply.mk (.update e) answer).updated?) herror
    · exact hstore.trans (by simp [found, Backend.found, Request.kind?, hfault])
  · refine .inr ⟨hreaches, ?_, hstore, ?_⟩
    · simp [found, Backend.found, Request.kind?, hreaches]
    · exact (hupdated _).trans (by rw [← hcall]; rfl)

/-- An update that has been applied was asked for. -/
lemma request_of_updated? {e : Entity} (h : x.updated? = some e) : x.request = .update e :=
  congrArg Reply.request (Reply.updated?_eq_some.mp h)

/-- When an update is applied. -/
theorem updated?_eq_some {e : Entity} (hrequest : x.request = .update e) :
    x.updated? = some e ↔ x.backend.reaches (.call .update) = true ∧
      x.found.rejectWrites = false ∧ ∃ id r, e.id = some id ∧
        x.found.find? e.logicalName id = some r ∧
        ∀ v, e.rowVersion = some v → v = versionToken r.version := by
  rcases update_cases hrequest with ⟨hfault, hnone, -⟩ | ⟨hreaches, hfound, -, hupdated⟩
  · simp [hfault, hnone]
  · rw [hupdated, hfound, and_iff_right hreaches]
    constructor
    · intro h
      obtain ⟨henabled, id, r, hid, hfind, hversion, -⟩ :=
        Store.update_eq_ok.mp (Prod.ext rfl h)
      exact ⟨henabled, id, r, hid, hfind, hversion⟩
    · rintro ⟨henabled, id, r, hid, hfind, hversion⟩
      rw [Store.update_eq_ok.mpr ⟨henabled, id, r, hid, hfind, hversion, rfl⟩]

/-- What an update leaves that is applied: the record that it finds is written. -/
theorem left_of_updated? {e : Entity} (h : x.updated? = some e) :
    ∃ id r, e.id = some id ∧ x.found.find? e.logicalName id = some r ∧
      (∀ v, e.rowVersion = some v → v = versionToken r.version) ∧
      x.left = x.found.write e.logicalName id (Store.merged e) := by
  rcases update_cases (request_of_updated? h) with ⟨-, hnone, -⟩ | ⟨-, hfound, hleft, hupdated⟩
  · exact absurd (hnone.symm.trans h) (by simp)
  · obtain ⟨-, id, r, hid, hfind, hversion, hwrite⟩ :=
      Store.update_eq_ok.mp (Prod.ext rfl (hupdated.mp h))
    exact ⟨id, r, hid, hfound ▸ hfind, hversion, hleft.trans (hfound ▸ hwrite)⟩

/-- An update that is not applied leaves the store that it finds. -/
theorem quiet_of_not_updated {e : Entity} (hrequest : x.request = .update e)
    (h : x.updated? = none) : x.Quiet := by
  rcases update_cases hrequest with ⟨-, -, hleft⟩ | ⟨-, hfound, hleft, hupdated⟩
  · exact ⟨congrArg Store.records hleft, congrArg Store.lastVersion hleft⟩
  · have hkept : (x.backend.store.update e).1 = x.backend.store.enter .update := by
      cases hresult : x.backend.store.update e with
      | mk t result =>
        cases result with
        | ok _ => exact absurd (h.symm.trans (hupdated.mpr (by rw [hresult]))) (by simp)
        | error error => exact Store.update_eq_error hresult
    rw [Quiet, hleft, hkept, hfound]
    exact ⟨rfl, rfl⟩

/-- A request that looks leaves the records as it finds them. -/
theorem quiet_of_looks (h : x.request.looks = true) : x.Quiet := by
  obtain ⟨client, b, request⟩ := x
  cases request with
  | token endpoint mode => exact ⟨rfl, rfl⟩
  | connect token =>
    have hleft := b.store_call .connect fun s => s.connect token.secret
    rw [Quiet, left, Backend.answer, hleft]
    split
    · exact Store.connect_quiet _ _
    · exact ⟨rfl, rfl⟩
  | retrieve logicalName id columns =>
    have hleft := b.store_call (.call .retrieve) fun s => s.retrieve logicalName id columns
    rw [Quiet, left, Backend.answer, hleft]
    exact ⟨rfl, rfl⟩
  | create e fresh => cases h
  | retrieveMultiple q => cases h
  | update e => cases h
  | delete logicalName id => cases h

/-- A record that is read is the one that the request finds. -/
theorem find?_of_retrieved {logicalName : String} {id : Uuid} {columns : ColumnSet}
    {entity : Entity}
    (h : x.reply = ⟨.retrieve logicalName id columns, .ok (some entity)⟩) :
    ∃ r, x.found.find? logicalName id = some r ∧ entity = r.toEntity columns := by
  obtain ⟨client, b, request⟩ := x
  obtain rfl : request = .retrieve logicalName id columns := congrArg Reply.request h
  have hanswer : (b.answer (.retrieve logicalName id columns)).2 = .ok (some entity) := by
    simpa only [reply, Reply.mk.injEq, heq_eq_eq, true_and] using h
  rcases b.call_cases (.call .retrieve) fun s => s.retrieve logicalName id columns with
    ⟨-, ⟨error, herror⟩, -⟩ | ⟨hreaches, hcall, -⟩
  · exact absurd (herror.symm.trans hanswer) (by simp)
  · have hread := Except.ok.inj (hcall.symm.trans hanswer)
    obtain ⟨r, hr, hentity⟩ := Option.map_eq_some_iff.mp hread
    exact ⟨r, by simpa [found, Backend.found, Request.kind?, hreaches] using hr, hentity.symm⟩

end Turn

end RecordGateway
