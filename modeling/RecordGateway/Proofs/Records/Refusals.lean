import RecordGateway.Credential.Counted
import RecordGateway.Proofs.Records.Contracts
import RecordGateway.Proofs.Script.Runs

/-!
# Refused operations

An operation that is refused leaves no trace.  Look-ups and queries never have an effect.  The
other operations ask for one request that may have one, and everything that can be refused is
refused before that request or by that request itself: after it only a read follows, and where a
read is served, what comes after it fails as a missing or an unreadable record, which is no refusal.
-/

namespace RecordGateway

/-- Whether an error tells that an operation was refused: for the caller's data, the caller's query,
a version that has passed, the lack of a token, or by the store. -/
def RecordError.refuses : RecordError → Bool
  | validation _ _ => true
  | query _ => true
  | conflict _ _ _ => true
  | credential _ => true
  | store (.rejected _) => true
  | store (.unauthorized _) => true
  | _ => false

/-- Whether a call is one that only reads. -/
def ManagerCall.readsOnly {D P : Type} : ManagerCall D P → Bool
  | lookup _ => true
  | query _ => true
  | _ => false

/-! ### Histories without an effect -/

/-- Whether no request of a history has had an effect. -/
def Silent (history : List Reply) : Prop :=
  ∀ x ∈ history, x.changes = false

/-- Whether no request of a history has had an effect if the operation was refused, provided that
all reads were served. -/
def LeavesNoTrace {α : Type} (history : List Reply) (result : Except RecordError α) : Prop :=
  (∀ x ∈ history, x.Served) → ∀ e, result = .error e → e.refuses = true → Silent history

/-- A silent history stays silent with a reply that tells of no change. -/
lemma Silent.snoc {history : List Reply} {x : Reply} (h : Silent history)
    (hx : x.changes = false) : Silent (history ++ [x]) :=
  List.forall_mem_append.mpr ⟨h, List.forall_mem_singleton.mpr hx⟩

section LeavesNoTrace

variable {α β : Type} {history : List Reply}

/-- A silent history leaves no trace, whatever the result. -/
lemma Silent.leavesNoTrace {result : Except RecordError α} (h : Silent history) :
    LeavesNoTrace history result :=
  fun _ _ _ _ => h

/-- An operation that succeeds may have had effects. -/
lemma leavesNoTrace_ok (history : List Reply) (a : α) : LeavesNoTrace history (.ok a) :=
  fun _ _ h => nomatch h

/-- An error that is no refusal may follow anything. -/
lemma leavesNoTrace_of_not_refuses {result : Except RecordError α}
    (h : (∀ x ∈ history, x.Served) → ∀ e, result = .error e → e.refuses = false) :
    LeavesNoTrace history result := by
  intro hserved e he hrefuses
  rw [h hserved e he] at hrefuses
  cases hrefuses

/-- An error is the same one for another type of results. -/
lemma LeavesNoTrace.error {e : RecordError}
    (h : LeavesNoTrace history (.error e : Except RecordError α)) :
    LeavesNoTrace history (.error e : Except RecordError β) :=
  fun hserved _ he hrefuses => h hserved e rfl (Except.error.inj he ▸ hrefuses)

end LeavesNoTrace

/-! ### Operations -/

namespace Manager

variable {D P : Type} {m : Manager D} {history : List Reply}

/-- The opening of a session has no effect. -/
lemma keeps_connect_silent (h : Silent history) :
    m.connect.Keeps (fun _ _ => True) (fun history' _ => Silent history') history :=
  ((asks_connect fun _ hr => hr).forall_mem
    (fun _ hr => Reply.changes_of_looks (Request.looks_of_opensSession hr)) h).imp
    (fun _ _ _ => trivial) fun _ _ h => h

/-- A look-up has no effect. -/
lemma keeps_lookup_silent {idText : String} (h : Silent history) :
    (m.lookup idText).Keeps (fun _ _ => True) (fun history' _ => Silent history') history :=
  ((asks_lookup fun _ hr => hr).forall_mem (fun _ hr => Reply.changes_of_looks hr) h).imp
    (fun _ _ _ => trivial) fun _ _ h => h

/-- A query has no effect. -/
lemma keeps_query_silent {request : QueryRequest} (h : Silent history) :
    (m.query request).Keeps (fun _ _ => True) (fun history' _ => Silent history') history := by
  have hasks : (m.query request).Asks fun r => ∀ answer, (Reply.mk r answer).changes = false :=
    asks_query (fun _ hr _ => Reply.changes_of_looks (Request.looks_of_opensSession hr))
      fun _ _ => rfl
  exact (hasks.forall_mem (fun reply hreply => hreply reply.answer) h).imp
    (fun _ _ _ => trivial) fun _ _ h => h

/-- A read that is served is not refused: the record is there or not, and has a data object or
not. -/
lemma keeps_fetch_unrefused {id : Uuid} :
    (m.fetch id).Keeps (fun _ _ => True)
      (fun history' result => (∀ x ∈ history', x.Served) →
        ∀ e, result = .error e → e.refuses = false) history := by
  refine Operation.keeps_bind (fun history' result =>
    (∀ x ∈ history', x.Served) → ∃ found, result = .ok found)
    (Operation.keeps_ofScript ⟨trivial, fun answer hserved => ?_⟩) ?_ ?_
  · cases answer with
    | ok found => exact ⟨found, rfl⟩
    | error e => exact (hserved _ (List.mem_append_right _ (List.mem_singleton_self _))).elim
  · intro history' found _
    cases found with
    | none => exact Operation.keeps_pure fun _ _ => nofun
    | some entity =>
      refine Operation.keeps_map (Operation.keeps_ofExcept fun _ e he => ?_)
      unfold dataOf at he
      cases hdata : m.mapper.toData entity with
      | ok d =>
        rw [hdata] at he
        cases he
      | error error =>
        rw [hdata] at he
        cases he
        rfl
  · intro history' e h hserved
    obtain ⟨found, hfound⟩ := h hserved
    cases hfound

/-- What follows a write: the record is read again, and it is no refusal if it cannot be. -/
lemma keeps_reread_noTrace {id : Uuid} {missing : RecordError} (h : missing.refuses = false) :
    (do match ← m.fetch id with
        | some d => return d
        | none => throw missing).Keeps (fun _ _ => True) LeavesNoTrace history := by
  refine Operation.keeps_bind _ keeps_fetch_unrefused (fun history' found _ => ?_) fun _ e h =>
    leavesNoTrace_of_not_refuses fun hserved e' he' => Except.error.inj he' ▸ h hserved e rfl
  cases found with
  | some d => exact Operation.keeps_pure (leavesNoTrace_ok _ _)
  | none =>
    exact Operation.keeps_throw
      (leavesNoTrace_of_not_refuses fun _ e he => Except.error.inj he ▸ h)

section Writes

variable [DataObject D P]

/-- An insertion that is refused has no effect. -/
lemma keeps_insert_noTrace {data : D} {fresh : Uuid} (h : Silent history) :
    (m.insert data fresh).Keeps (fun _ _ => True) LeavesNoTrace history := by
  refine Operation.keeps_bind (fun history' _ => Silent history') (Operation.keeps_ofExcept h)
    (fun history' entity h => ?_) fun _ _ h => h.leavesNoTrace
  refine Operation.keeps_bind (fun history' _ => Silent history') (Operation.keeps_ofExcept h)
    (fun history' preset h => ?_) fun _ _ h => h.leavesNoTrace
  refine Operation.keeps_bind (fun history' _ => Silent history') (keeps_connect_silent h)
    (fun history' _ h => ?_) fun _ _ h => h.leavesNoTrace
  refine Operation.keeps_bind LeavesNoTrace
    (Operation.keeps_ofScript ⟨trivial, fun answer => ?_⟩)
    (fun _ _ _ => keeps_reread_noTrace rfl) fun _ _ h => h.error
  cases answer with
  | ok id => exact leavesNoTrace_ok _ _
  | error e => exact (h.snoc rfl).leavesNoTrace

/-- A replacement that is refused has no effect. -/
lemma keeps_replace_noTrace {idText : String} {data : D} (h : Silent history) :
    (m.replace idText data).Keeps (fun _ _ => True) LeavesNoTrace history := by
  refine Operation.keeps_bind (fun history' _ => Silent history') (Operation.keeps_ofExcept h)
    (fun history' ⟨id, version, entity⟩ h => ?_) fun _ _ h => h.leavesNoTrace
  refine Operation.keeps_bind (fun history' _ => Silent history') (keeps_connect_silent h)
    (fun history' _ h => ?_) fun _ _ h => h.leavesNoTrace
  refine Operation.keeps_bind (fun history' _ => Silent history')
    (Operation.keeps_ofScript ⟨trivial, fun _ => h.snoc rfl⟩)
    (fun history' found h => ?_) fun _ _ h => h.leavesNoTrace
  cases found with
  | none => exact Operation.keeps_throw h.leavesNoTrace
  | some current =>
    dsimp only
    split
    · exact Operation.keeps_throw h.leavesNoTrace
    · refine Operation.keeps_bind LeavesNoTrace
        (Operation.keeps_ofScript ⟨trivial, fun answer => ?_⟩)
        (fun _ _ _ => keeps_reread_noTrace rfl) fun _ _ h => h.error
      cases answer with
      | ok _ => exact leavesNoTrace_ok _ _
      | error e => exact (h.snoc rfl).leavesNoTrace

/-- A partial update that is refused has no effect. -/
lemma keeps_patch_noTrace {idText : String} {update : P} (h : Silent history) :
    (m.patch idText update).Keeps (fun _ _ => True) LeavesNoTrace history := by
  refine Operation.keeps_bind (fun history' _ => Silent history') (keeps_lookup_silent h)
    (fun history' current h => ?_) fun _ _ h => h.leavesNoTrace
  cases current with
  | none => exact Operation.keeps_pure (leavesNoTrace_ok _ _)
  | some d =>
    refine Operation.keeps_tryCatch LeavesNoTrace (Operation.keeps_map
      ((keeps_replace_noTrace h).imp (fun _ _ h => h) fun history' result h => ?_))
      (fun _ _ h => h) fun history' e h => ?_
    · cases result with
      | ok d => exact leavesNoTrace_ok _ _
      | error e => exact h.error
    · -- the handler throws every error again except for one that is no refusal
      cases e with
      | notFound entity id => exact Operation.keeps_pure (leavesNoTrace_ok _ _)
      | _ => exact Operation.keeps_throw h

/-- A deletion that is refused has no effect. -/
lemma keeps_delete_noTrace {idText : String} (h : Silent history) :
    (m.delete idText).Keeps (fun _ _ => True) LeavesNoTrace history := by
  unfold delete
  cases idOfText? idText with
  | none => exact Operation.keeps_pure (leavesNoTrace_ok _ _)
  | some id =>
    refine Operation.keeps_bind (fun history' _ => Silent history') (keeps_connect_silent h)
      (fun history' _ h => ?_) fun _ _ h => h.leavesNoTrace
    refine Operation.keeps_bind (fun history' result =>
      (∀ e, result = .ok (.error e) → Silent history') ∧ ∃ answer, result = .ok answer)
      (Operation.keeps_lift trivial fun answer => ⟨fun e he => ?_, answer, rfl⟩)
      (fun history' answer h => ?_) (fun _ _ h => nomatch h.2)
    · obtain rfl := Except.ok.inj he
      exact h.snoc rfl
    · split
      · exact Operation.keeps_pure (leavesNoTrace_ok _ _)
      · exact Operation.keeps_pure (leavesNoTrace_ok _ _)
      · exact Operation.keeps_throw (h.1 _ rfl).leavesNoTrace

/-- Every call that is refused has no effect. -/
theorem keeps_perform_noTrace (m : Manager D) (call : ManagerCall D P) :
    (m.perform call).Keeps (fun _ _ => True) LeavesNoTrace [] := by
  have hsilent : Silent [] := List.forall_mem_nil _
  cases call with
  | insert data fresh => exact keeps_insert_noTrace hsilent
  | lookup idText =>
    exact (keeps_lookup_silent hsilent).imp (fun _ _ h => h) fun _ _ h => h.leavesNoTrace
  | query request =>
    exact (keeps_query_silent hsilent).imp (fun _ _ h => h) fun _ _ h => h.leavesNoTrace
  | replace idText data => exact keeps_replace_noTrace hsilent
  | patch idText update => exact keeps_patch_noTrace hsilent
  | delete idText => exact keeps_delete_noTrace hsilent

/-- **A refused operation leaves no trace.**  Whatever a store holds, whatever other writers are
about to do, and whatever the token source answers: a look-up, a query, and every operation that
ends in a refusal leave the records and the version counter that the actions of other writers
make, which were taken meanwhile, of those it has found. -/
theorem records_outcome_of_refuses {S : Type} [TokenSource S] (m : Manager D)
    (call : ManagerCall D P) (scope : RequestScope) (store : Store) (tokens : S)
    (h : call.readsOnly = true ∨
      ∃ e, ((m.perform call).outcome scope ⟨store, [], tokens⟩).2.1 = .error e ∧
        e.refuses = true) :
    ((m.perform call).outcome scope ⟨store, [], tokens⟩).1.store.records =
        (((m.perform call).fired scope ⟨store, [], tokens⟩).foldl Store.interfere store).records ∧
      ((m.perform call).outcome scope ⟨store, [], tokens⟩).1.store.lastVersion =
        (((m.perform call).fired scope ⟨store, [], tokens⟩).foldl
          Store.interfere store).lastVersion := by
  refine Operation.records_outcome_of_changes ?_
  rcases h with hcall | ⟨e, he, hrefuses⟩
  · have hsilent :
        (m.perform call).Keeps (fun _ _ => True) (fun history _ => Silent history) [] := by
      cases call with
      | lookup idText => exact keeps_lookup_silent (List.forall_mem_nil _)
      | query request => exact keeps_query_silent (List.forall_mem_nil _)
      | _ => cases hcall
    exact (hsilent scope).run ⟨store, [], tokens⟩
  · exact (m.keeps_perform_noTrace call scope).run ⟨store, [], tokens⟩
      (Script.served_of_faults rfl) e he hrefuses

end Writes

end Manager

/-! ### A refused replacement -/

namespace StaleReplacement

/-- A company in a city, at a version. -/
def company (version : Nat) (city : String) : StoredRecord where
  logicalName := Account.logicalName
  id := .ofNat 1
  version
  attributes := (Attributes.empty.set "name" (.string "Acme")).set "address1_city" (.string city)

/-- A store with the company in Berlin, which another writer is about to move to Oslo. -/
def store : Store where
  records := [company 1 "Berlin"]
  lastVersion := 1
  counts := .zero
  tokensSeen := []
  rejectWrites := false
  pending := [⟨.retrieve, 0, Account.logicalName, .ofNat 1,
    .write "address1_city" (.string "Oslo")⟩]

/-- A replacement of the company at version 1. -/
def call : ManagerCall Account Account.Patch :=
  .replace "00000000-0000-0000-0000-000000000001" ⟨none, some "1", "Acme Corp", none, none, none⟩

/-- What the replacement leads to. -/
def final : Backend CountedTokens × Except RecordError Account × RequestScope :=
  (Account.manager.perform call).outcome (.ofCaller .anonymous) ⟨store, [], .ofToken "token"⟩

/-- The replacement finds the company moved and is refused, and the move is all that remains. -/
theorem records_final : final.1.store.records = [company 2 "Oslo"] := by
  have hrefused : final.2.1 = .error (.conflict Account.logicalName
      "00000000-0000-0000-0000-000000000001"
      "concurrency token does not match the stored record") := by decide +kernel
  refine (Manager.records_outcome_of_refuses Account.manager call (.ofCaller .anonymous) store
    (CountedTokens.ofToken "token") (.inr ⟨_, hrefused, rfl⟩)).1.trans ?_
  decide +kernel

end StaleReplacement

end RecordGateway
