import RecordGateway.Proofs.Sharing.Turn
import RecordGateway.Proofs.Store.Journal

/-!
# Runs of scripts

A script that has a backend to itself.  Its turns are the requests that it asks, each with the
backend that it finds, and the replies to them are a history with which it keeps its contract.

What a run does to the records is what its turns do: first the actions of other writers are taken
that are due, and then the request has its own effect.  A run in which no request has one leaves
the records that the other writers make of those it has found.
-/

namespace RecordGateway

/-! ### Replies without an effect -/

/-- Whether a reply tells that a record has been created, updated or deleted. -/
def Reply.changes : Reply → Bool
  | ⟨.create _ _, .ok _⟩ => true
  | ⟨.update _, .ok _⟩ => true
  | ⟨.delete _ _, .ok _⟩ => true
  | _ => false

/-- Whether a reply does not tell that a read has failed. -/
def Reply.Served : Reply → Prop
  | ⟨.retrieve _ _ _, .error _⟩ => False
  | _ => True

/-- A request that looks changes nothing. -/
lemma Reply.changes_of_looks {x : Reply} (h : x.request.looks = true) : x.changes = false := by
  obtain ⟨request, answer⟩ := x
  cases request with
  | token endpoint mode => rfl
  | connect token => rfl
  | retrieve logicalName id columns => rfl
  | create e fresh => cases h
  | retrieveMultiple q => cases h
  | update e => cases h
  | delete logicalName id => cases h

namespace Store

/-- A creation that is refused leaves the store that the other writers left. -/
lemma create_eq_error {s : Store} {e : Entity} {fresh : Uuid} {error : StoreError}
    (h : (s.create e fresh).2 = .error error) : (s.create e fresh).1 = s.enter .create := by
  unfold create at h ⊢
  dsimp only at h ⊢
  split
  · rfl
  · rename_i henabled
    rw [if_neg henabled] at h
    split
    · rfl
    · rename_i hnone
      rw [if_neg hnone] at h
      cases h

/-- A deletion that is refused leaves the store that the other writers left. -/
lemma delete_eq_error {s : Store} {logicalName : String} {id : Uuid} {error : StoreError}
    (h : (s.delete logicalName id).2 = .error error) :
    (s.delete logicalName id).1 = s.enter .delete := by
  unfold delete at h ⊢
  dsimp only at h ⊢
  split
  · rfl
  · rename_i henabled
    rw [if_neg henabled] at h
    cases h

/-- Two bare stores are equal precisely if they have the same records and the same last version. -/
lemma bare_eq_iff {s t : Store} :
    s.bare = t.bare ↔ s.records = t.records ∧ s.lastVersion = t.lastVersion := by
  unfold bare
  constructor
  · intro h
    obtain ⟨hrecords, hversion, -⟩ := Store.mk.inj h
    exact ⟨hrecords, hversion⟩
  · rintro ⟨hrecords, hversion⟩
    rw [hrecords, hversion]

/-- What other writers do to the records does not depend on the rest of the store. -/
lemma bare_foldl_interfere (due : List Interference) (s : Store) :
    (due.foldl interfere s).bare = due.foldl interfere s.bare := by
  rw [foldl_interfere, foldl_interfere, bare_foldl_apply]

end Store

namespace Turn

variable {S : Type} {x : Turn S}

/-- The actions of other writers that are taken before the request has its own effect. -/
def due (x : Turn S) : List Interference :=
  match x.request.kind? with
  | some kind =>
    if x.backend.reaches (.call kind) then x.backend.store.pending.filter (·.isDue kind) else []
  | none => []

/-- A request finds what the other writers make of the store. -/
lemma bare_found (x : Turn S) :
    x.found.bare = x.due.foldl Store.interfere x.backend.store.bare := by
  unfold found Backend.found due
  cases x.request.kind? with
  | none => rfl
  | some kind =>
    dsimp only
    split
    · rw [Store.bare_enter, Store.foldl_interfere]
    · rfl

variable [TokenSource S]

/-- A turn is quiet precisely if it leaves the records and the last version as it finds them. -/
lemma quiet_iff : x.Quiet ↔ x.left.bare = x.found.bare :=
  Store.bare_eq_iff.symm

/-- A request to the store that changes nothing leaves what it finds. -/
lemma quiet_of_call {α : Type} {kind : CallKind} {f : Store → Store × Except StoreError α}
    (hkind : x.request.kind? = some kind) (hleft : x.left = (x.backend.call (.call kind) f).1.store)
    (hf : x.backend.reaches (.call kind) = true →
      (f x.backend.store).1 = x.backend.store.enter kind) : x.Quiet := by
  rw [Backend.store_call] at hleft
  have hfound : x.found =
      if x.backend.reaches (.call kind) then x.backend.store.enter kind else x.backend.store := by
    simp only [found, Backend.found, hkind]
  have hsame : x.left = x.found := by
    rw [hleft, hfound]
    split
    · rename_i hreaches
      exact hf hreaches
    · rfl
  exact ⟨congrArg Store.records hsame, congrArg Store.lastVersion hsame⟩

/-- A request without an effect leaves the records that it finds. -/
theorem quiet_of_changes (h : x.reply.changes = false) : x.Quiet := by
  by_cases hlooks : x.request.looks = true
  · exact quiet_of_looks hlooks
  obtain ⟨client, b, request⟩ := x
  -- a call that does not reach the store is quiet, so that the answer may be taken for the store's
  have hreached {α : Type} {kind : CallKind} {f : Store → Store × Except StoreError α}
      (hreaches : b.reaches (.call kind) = true) :
      (b.call (.call kind) f).2 = (f b.store).2 := by
    rcases b.call_cases (.call kind) f with ⟨hfault, -, -⟩ | ⟨-, hanswer, -⟩
    · rw [hreaches] at hfault
      cases hfault
    · exact hanswer
  cases request with
  | token endpoint mode => exact absurd rfl hlooks
  | connect token => exact absurd rfl hlooks
  | retrieve logicalName id columns => exact absurd rfl hlooks
  | retrieveMultiple q =>
    exact quiet_of_call (f := fun s => s.retrieveMultiple q) rfl rfl fun _ => rfl
  | create e fresh =>
    refine quiet_of_call (f := fun s => s.create e fresh) rfl rfl fun hreaches => ?_
    have hanswer := hreached (f := fun s => s.create e fresh) hreaches
    cases hresult : (b.store.create e fresh).2 with
    | error error => exact Store.create_eq_error hresult
    | ok id =>
      have hreply : (Turn.mk client b (.create e fresh)).reply = ⟨.create e fresh, .ok id⟩ :=
        congrArg (Reply.mk (.create e fresh)) (hanswer.trans hresult)
      rw [hreply] at h
      cases h
  | update e =>
    refine quiet_of_not_updated rfl ?_
    cases hupdated : (Turn.mk client b (.update e)).updated? with
    | none => rfl
    | some e' =>
      rw [Reply.updated?_eq_some.mp hupdated] at h
      cases h
  | delete logicalName id =>
    refine quiet_of_call (f := fun s => s.delete logicalName id) rfl rfl fun hreaches => ?_
    have hanswer := hreached (f := fun s => s.delete logicalName id) hreaches
    cases hresult : (b.store.delete logicalName id).2 with
    | error error => exact Store.delete_eq_error hresult
    | ok deleted =>
      have hreply : (Turn.mk client b (.delete logicalName id)).reply =
          ⟨.delete logicalName id, .ok deleted⟩ :=
        congrArg (Reply.mk (.delete logicalName id)) (hanswer.trans hresult)
      rw [hreply] at h
      cases h

end Turn

/-! ### Turns of a script -/

namespace Script

variable {S α β : Type} [TokenSource S] {asks : List Reply → Request → Prop} {history : List Reply}

/-- The turns that a script takes with a backend of its own. -/
def turns : Script α → Backend S → List (Turn S)
  | done _, _ => []
  | ask r next, b => ⟨0, b, r⟩ :: (next (b.answer r).2).turns (b.answer r).1

/-- The replies that a script gets from a backend of its own. -/
def replies (x : Script α) (b : Backend S) : List Reply :=
  (x.turns b).map Turn.reply

/-- The actions of other writers that are taken while a script runs, in their order. -/
def fired (x : Script α) (b : Backend S) : List Interference :=
  (x.turns b).flatMap Turn.due

/-- A sequence of scripts takes the turns of both. -/
lemma turns_bind (x : Script α) (f : α → Script β) (b : Backend S) :
    (x >>= f).turns b =
      x.turns b ++ (f (x.run Backend.answer b).2).turns (x.run Backend.answer b).1 := by
  induction x generalizing b with
  | done a => rfl
  | ask r next ih => exact congrArg (⟨0, b, r⟩ :: ·) (ih _ _)

/-- A script that asks nothing leaves the backend alone. -/
lemma run_of_turns_eq_nil {x : Script α} {b : Backend S} (h : x.turns b = []) :
    (x.run Backend.answer b).1 = b := by
  cases x with
  | done a => rfl
  | ask r next => cases h

/-- At the end of a run a script fulfils its contract. -/
theorem Keeps.run {x : Script α} {post : List Reply → α → Prop} (h : x.Keeps asks post history)
    (b : Backend S) : post (history ++ x.replies b) (x.run Backend.answer b).2 := by
  induction x generalizing history b with
  | done a =>
    rw [replies, turns, List.map_nil, List.append_nil]
    exact h
  | ask r next ih =>
    have hnext := ih (b.answer r).2 (h.2 (b.answer r).2) (b.answer r).1
    rw [List.append_assoc] at hnext
    exact hnext

/-- Each request of a run was allowed after the replies before it. -/
theorem Keeps.asked {x : Script α} {post : List Reply → α → Prop} (h : x.Keeps asks post history)
    {b : Backend S} {before after : List (Turn S)} {t : Turn S}
    (hturns : x.turns b = before ++ t :: after) :
    asks (history ++ before.map Turn.reply) t.request := by
  induction x generalizing history b before with
  | done a => cases before <;> cases hturns
  | ask r next ih =>
    cases before with
    | nil =>
      obtain ⟨rfl, -⟩ := List.cons.inj hturns
      rw [List.map_nil, List.append_nil]
      exact h.1
    | cons t' before =>
      obtain ⟨rfl, hrest⟩ := List.cons.inj hturns
      have hnext := ih _ (h.2 _) hrest
      rw [List.append_assoc] at hnext
      exact hnext

/-- What holds of every reply to a request that a script may ask holds of the whole history in the
end. -/
lemma Keeps.forall_mem {x : Script α} {kind : Request → Prop} {post : List Reply → α → Prop}
    {p : Reply → Prop} (h : x.Keeps (fun _ => kind) post history)
    (hkind : ∀ reply : Reply, kind reply.request → p reply)
    (hhistory : ∀ reply ∈ history, p reply) :
    x.Keeps (fun _ => kind) (fun history' _ => ∀ reply ∈ history', p reply) history := by
  induction x generalizing history with
  | done a => exact hhistory
  | ask r next ih =>
    refine ⟨h.1, fun answer => ih answer (h.2 answer) fun reply hreply => ?_⟩
    rcases List.mem_append.mp hreply with hreply | hreply
    · exact hhistory reply hreply
    · exact List.mem_singleton.mp hreply ▸ hkind _ h.1

/-- A backend without faults serves every read, and stays without faults. -/
lemma served_of_faults {x : Script α} {b : Backend S} (h : b.faults = []) :
    ∀ reply ∈ x.replies b, reply.Served := by
  induction x generalizing b with
  | done a => exact List.forall_mem_nil _
  | ask r next ih =>
    obtain ⟨store, faults, tokens⟩ := b
    obtain rfl : faults = [] := h
    refine List.forall_mem_cons.mpr ⟨?_, ih _ ?_⟩
    · cases r <;> exact trivial
    · cases r <;> rfl

/-- A run in which no request has an effect leaves the records that the other writers make of
those it has found. -/
theorem bare_run_of_changes {x : Script α} {b : Backend S}
    (h : ∀ reply ∈ x.replies b, reply.changes = false) :
    (x.run Backend.answer b).1.store.bare =
      (x.fired b).foldl Store.interfere b.store.bare := by
  induction x generalizing b with
  | done a => rfl
  | ask r next ih =>
    obtain ⟨hfirst, hrest⟩ := List.forall_mem_cons.mp h
    have hquiet := Turn.quiet_iff.mp (Turn.quiet_of_changes hfirst)
    have hnext := ih _ hrest
    have hfound := (Turn.mk 0 b r).bare_found
    rw [fired, turns, List.flatMap_cons, List.foldl_append, ← hfound, ← hquiet]
    exact hnext

end Script

/-! ### Outcomes of operations -/

namespace Operation

variable {S α : Type} [TokenSource S]

/-- What an operation in a scope leads to that has a backend to itself: the backend that it leaves,
its result and its scope. -/
def outcome (x : Operation α) (scope : RequestScope) (b : Backend S) :
    Backend S × Except RecordError α × RequestScope :=
  (x.inScope scope).run Backend.answer b

/-- The actions of other writers that are taken while an operation runs, in their order. -/
def fired (x : Operation α) (scope : RequestScope) (b : Backend S) : List Interference :=
  (x.inScope scope).fired b

/-- In a sequence of operations, the second one runs unless the first one fails. -/
lemma inScope_bind {β : Type} (x : Operation β) (f : β → Operation α) (scope : RequestScope) :
    (x >>= f).inScope scope = x.inScope scope >>= fun result => match result.1 with
      | .ok b => (f b).inScope result.2
      | .error e => .done (.error e, result.2) := by
  refine congrArg (x.inScope scope >>= ·) (funext fun ⟨result, scope'⟩ => ?_)
  cases result <;> rfl

variable {x : Operation α} {history : List Reply}

/-- What holds of every reply to a request that an operation may ask holds of the whole history in
the end. -/
lemma Asks.forall_mem {kind : Request → Prop} {p : Reply → Prop} (h : x.Asks kind)
    (hkind : ∀ reply : Reply, kind reply.request → p reply)
    (hhistory : ∀ reply ∈ history, p reply) :
    x.Keeps (fun _ => kind) (fun history' _ => ∀ reply ∈ history', p reply) history :=
  fun scope => (h history scope).forall_mem hkind hhistory

/-- An operation of which no request has an effect leaves the records that the other writers make
of those it has found. -/
theorem records_outcome_of_changes {scope : RequestScope} {b : Backend S}
    (h : ∀ reply ∈ (x.inScope scope).replies b, reply.changes = false) :
    (x.outcome scope b).1.store.records =
        ((x.fired scope b).foldl Store.interfere b.store).records ∧
      (x.outcome scope b).1.store.lastVersion =
        ((x.fired scope b).foldl Store.interfere b.store).lastVersion := by
  refine Store.bare_eq_iff.mp ?_
  rw [Store.bare_foldl_interfere]
  exact Script.bare_run_of_changes h

end Operation

end RecordGateway
