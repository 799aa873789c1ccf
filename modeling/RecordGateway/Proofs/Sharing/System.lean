import RecordGateway.Proofs.Records.Contracts
import RecordGateway.Proofs.Sharing.Turn

/-!
# Clients that share a store

Any number of clients run operations of managers against one backend.  One request of one client
is one step, so the requests of the clients are interleaved in every order; between the steps
records are put in directly, actions of other writers and faults are scheduled, and writing is
disabled and enabled.  The system keeps a log of all turns.

Everything about a run rests on two facts.  The store only develops, from one turn to the
next; and the replies that a client has got are a history of its operation, so that they keep the
contract of that operation.
-/

namespace RecordGateway

/-! ### Clients -/

/-- What a client sets out to do: one call of a manager in a scope, which may have a session. -/
structure Job where
  {D P : Type}
  [object : DataObject D P]
  manager : Manager D
  call : ManagerCall D P
  scope : RequestScope

attribute [instance] Job.object

namespace Job

/-- The operation of a job. -/
def operation (j : Job) : Operation j.call.Result :=
  j.manager.perform j.call

end Job

/-- A client: its job, and what it still has to do. -/
structure Client where
  job : Job
  rest : Script (Except RecordError job.call.Result × RequestScope)

/-- The client with a job that has not yet asked anything. -/
def Client.ofJob (j : Job) : Client :=
  ⟨j, j.operation.inScope j.scope⟩

/-! ### Systems -/

/-- Clients that share a backend. -/
structure System (S : Type) where
  backend : Backend S
  clients : List Client
  /-- The turns of all clients in the order in which they took place. -/
  log : List (Turn S)

/-- One step of a system. -/
inductive Action where
  /-- A client with a job arrives. -/
  | start (job : Job)
  /-- A client has its next request answered. -/
  | advance (client : Nat)
  /-- A record is put into the store. -/
  | seed (e : Entity) (fresh : Uuid)
  /-- An action of another writer is scheduled. -/
  | interleave (i : Interference)
  | setRejectWrites (reject : Bool)
  /-- A fault is scheduled. -/
  | schedule (f : Fault)

/-- The replies that a client has got. -/
def repliesTo {S : Type} [TokenSource S] (client : Nat) (log : List (Turn S)) : List Reply :=
  (log.filter (·.client == client)).map Turn.reply

namespace System

variable {S : Type} [TokenSource S]

/-- A system without clients and without records. -/
def start (tokens : S) : System S where
  backend := { store := .empty, faults := [], tokens }
  clients := []
  log := []

/-- The system with its store changed. -/
def onStore (s : System S) (f : Store → Store) : System S :=
  { s with backend := { s.backend with store := f s.backend.store } }

/-- The system after the next turn of a client, if it has still to ask something. -/
def advance (s : System S) (k : Nat) : System S :=
  match s.clients[k]? with
  | some ⟨job, .ask r next⟩ => {
      backend := (s.backend.answer r).1
      clients := s.clients.set k ⟨job, next (s.backend.answer r).2⟩
      log := s.log ++ [⟨k, s.backend, r⟩] }
  | _ => s

/-- The system after a step. -/
def step (s : System S) : Action → System S
  | .start job => { s with clients := s.clients ++ [.ofJob job] }
  | .advance k => s.advance k
  | .seed e fresh => s.onStore fun store => (store.seed e fresh).1
  | .interleave i => s.onStore fun store => store.interleave i
  | .setRejectWrites reject => s.onStore fun store => store.setRejectWrites reject
  | .schedule f => { s with backend := s.backend.schedule f }

/-- The system that steps lead to from an empty store. -/
def run (tokens : S) (actions : List Action) : System S :=
  actions.foldl step (start tokens)

/-- What holds at the start and is kept by every step holds after every run. -/
lemma run_induction {motive : System S → Prop} {tokens : S} (hstart : motive (start tokens))
    (hstep : ∀ s a, motive s → motive (s.step a)) (actions : List Action) :
    motive (run tokens actions) := by
  unfold run
  generalize start tokens = s at hstart
  induction actions generalizing s with
  | nil => exact hstart
  | cons a actions ih => exact ih (s.step a) (hstep s a hstart)

/-- What a step does: a client has its next request answered, or nothing is asked, a client
arrives or not, and the store develops. -/
theorem step_cases (s : System S) (a : Action) :
    (∃ k job r next, s.clients[k]? = some ⟨job, .ask r next⟩ ∧ s.step a = {
      backend := (s.backend.answer r).1
      clients := s.clients.set k ⟨job, next (s.backend.answer r).2⟩
      log := s.log ++ [⟨k, s.backend, r⟩] }) ∨
    ((s.step a).log = s.log ∧ s.backend.store.Develops (s.step a).backend.store ∧
      ∃ jobs : List Job, (s.step a).clients = s.clients ++ jobs.map Client.ofJob) := by
  cases a with
  | start job => exact .inr ⟨rfl, .refl, [job], rfl⟩
  | advance k =>
    rw [step, advance]
    split
    case h_1 job r next hclient => exact .inl ⟨k, job, r, next, hclient, rfl⟩
    case h_2 => exact .inr ⟨rfl, .refl, [], (List.append_nil _).symm⟩
  | seed e fresh => exact .inr ⟨rfl, .single (.add _ _), [], (List.append_nil _).symm⟩
  | interleave i => exact .inr ⟨rfl, Store.develops_of_eq rfl rfl, [], (List.append_nil _).symm⟩
  | setRejectWrites reject =>
    exact .inr ⟨rfl, Store.develops_of_eq rfl rfl, [], (List.append_nil _).symm⟩
  | schedule f => exact .inr ⟨rfl, .refl, [], (List.append_nil _).symm⟩

/-! ### The store develops -/

/-- The turns of a log are in order: the store develops from the empty one up to each turn, from
each turn to the later ones, and to the store that there is. -/
structure Ordered (s : System S) : Prop where
  first : ∀ x ∈ s.log, Store.empty.Develops x.backend.store
  between : s.log.Pairwise fun x y => x.left.Develops y.backend.store
  last : ∀ x ∈ s.log, x.left.Develops s.backend.store
  whole : Store.empty.Develops s.backend.store

/-- Every step keeps the turns in order. -/
lemma Ordered.step {s : System S} (h : s.Ordered) (a : Action) : (s.step a).Ordered := by
  rcases s.step_cases a with ⟨k, job, r, next, -, hstep⟩ | ⟨hlog, hstore, -⟩
  · rw [hstep]
    have hx : s.backend.store.Develops (Turn.mk k s.backend r).left :=
      (Turn.mk k s.backend r).develops_found.trans (Turn.mk k s.backend r).develops_left
    constructor
    · rintro y hy
      rcases List.mem_append.mp hy with hy | hy
      · exact h.first y hy
      · exact List.mem_singleton.mp hy ▸ h.whole
    · refine List.pairwise_append.mpr ⟨h.between, List.pairwise_singleton _ _, fun y hy z hz => ?_⟩
      exact List.mem_singleton.mp hz ▸ h.last y hy
    · rintro y hy
      rcases List.mem_append.mp hy with hy | hy
      · exact (h.last y hy).trans hx
      · rw [List.mem_singleton.mp hy]
        exact .refl
    · exact h.whole.trans hx
  · exact ⟨hlog ▸ h.first, hlog ▸ h.between, fun x hx => (h.last x (hlog ▸ hx)).trans hstore,
      h.whole.trans hstore⟩

/-- In every run the turns are in order. -/
theorem ordered_run (tokens : S) (actions : List Action) : (run tokens actions).Ordered :=
  run_induction ⟨by simp [start], .nil, by simp [start], .refl⟩ (fun _ a h => h.step a) actions

/-- The records that a turn finds have different versions. -/
lemma Ordered.versioned_found {s : System S} (h : s.Ordered) {x : Turn S} (hx : x ∈ s.log) :
    x.found.Versioned :=
  Store.Develops.versioned ((h.first x hx).trans x.develops_found) Store.versioned_empty

/-! ### The clients keep their contracts -/

/-- Whether all clients keep contracts that are given for each job: the replies of each client are
a history with which what it still has to do keeps the contract of its job, and each request was
allowed after the replies before it. -/
structure Keeps (s : System S) (asks : Job → List Reply → Request → Prop)
    (post : (j : Job) → List Reply → Except RecordError j.call.Result → Prop) : Prop where
  rest : ∀ k (c : Client), s.clients[k]? = some c →
    c.rest.Keeps (asks c.job) (fun history result => post c.job history result.1)
      (repliesTo k s.log)
  asked : ∀ before x after, s.log = before ++ x :: after →
    ∃ c, s.clients[x.client]? = some c ∧ asks c.job (repliesTo x.client before) x.request

variable {asks : Job → List Reply → Request → Prop}
  {post : (j : Job) → List Reply → Except RecordError j.call.Result → Prop}

/-- A client that arrives has got no replies. -/
lemma Keeps.repliesTo_eq_nil {s : System S} (h : s.Keeps asks post) {k : Nat}
    (hk : s.clients.length ≤ k) : repliesTo k s.log = [] := by
  rw [repliesTo, List.map_eq_nil_iff, List.filter_eq_nil_iff]
  intro x hx hclient
  obtain ⟨before, after, hlog⟩ := List.append_of_mem hx
  obtain ⟨c, hc, -⟩ := h.asked before x after hlog
  rw [beq_iff_eq.mp hclient, List.getElem?_eq_none hk] at hc
  cases hc

/-- A further turn adds its reply to those of its client. -/
lemma repliesTo_concat (k : Nat) (log : List (Turn S)) (x : Turn S) :
    repliesTo k (log ++ [x]) = repliesTo k log ++ if x.client = k then [x.reply] else [] := by
  rw [repliesTo, List.filter_append, List.map_append, List.filter_singleton]
  by_cases hx : x.client = k
  · simp [repliesTo, hx]
  · simp [repliesTo, hx, beq_eq_false_iff_ne.mpr hx]

/-- A member of a list with one more member at the end is the last one or one of the list. -/
lemma append_singleton_eq_append_cons {α : Type} {l before after : List α} {a x : α}
    (h : l ++ [a] = before ++ x :: after) :
    (before = l ∧ x = a) ∨ ∃ after', l = before ++ x :: after' := by
  rcases List.eq_nil_or_concat after with rfl | ⟨after', b, rfl⟩
  · obtain ⟨rfl, hx⟩ := List.append_inj' h rfl
    exact .inl ⟨rfl, (List.singleton_inj.mp hx).symm⟩
  · rw [List.concat_eq_append, ← List.cons_append, ← List.append_assoc] at h
    exact .inr ⟨after', (List.append_inj' h rfl).1⟩

/-- Every step keeps the contracts. -/
lemma Keeps.step {s : System S} (h : s.Keeps asks post)
    (hcontract : ∀ j : Job, j.operation.Keeps (asks j) (post j) []) (a : Action) :
    (s.step a).Keeps asks post := by
  rcases s.step_cases a with ⟨k, job, r, next, hclient, hstep⟩ | ⟨hlog, -, jobs, hclients⟩
  · -- client `k` goes on with an answer, and the other clients stay where they are
    rw [hstep]
    have hrest := h.rest k _ hclient
    constructor
    · intro k' c hc
      rw [List.getElem?_set] at hc
      rw [repliesTo_concat]
      by_cases hk : k = k'
      · subst hk
        obtain ⟨-, rfl⟩ : k < s.clients.length ∧ _ = c := by simpa using hc
        simpa [Turn.reply] using hrest.2 (s.backend.answer r).2
      · simpa [hk] using h.rest k' c (by simpa [hk] using hc)
    · intro before x after hx
      rcases append_singleton_eq_append_cons hx with ⟨rfl, rfl⟩ | ⟨after', hlog⟩
      · have hk := (List.getElem?_eq_some_iff.mp hclient).1
        exact ⟨_, List.getElem?_set_self hk, hrest.1⟩
      · obtain ⟨c, hc, hasks⟩ := h.asked before x after' hlog
        by_cases hk : k = x.client
        · obtain rfl : _ = c := Option.some.inj (hclient.symm.trans (hk ▸ hc))
          have hlt := (List.getElem?_eq_some_iff.mp hclient).1
          refine ⟨⟨job, next (s.backend.answer r).2⟩, ?_, hasks⟩
          exact hk ▸ List.getElem?_set_self hlt
        · exact ⟨c, by rw [← hc]; exact List.getElem?_set_ne hk, hasks⟩
  · -- jobs are started at most, with nothing asked and no replies yet
    constructor
    · intro k c hc
      rw [hlog]
      rw [hclients] at hc
      rcases Nat.lt_or_ge k s.clients.length with hk | hk
      · exact h.rest k c (by rwa [List.getElem?_append_left hk] at hc)
      · rw [h.repliesTo_eq_nil hk]
        rw [List.getElem?_append_right hk, List.getElem?_map] at hc
        obtain ⟨j, -, rfl⟩ := Option.map_eq_some_iff.mp hc
        exact hcontract j j.scope
    · intro before x after hx
      obtain ⟨c, hc, hasks⟩ := h.asked before x after (hlog ▸ hx)
      refine ⟨c, ?_, hasks⟩
      rw [hclients, List.getElem?_append_left (List.getElem?_eq_some_iff.mp hc).1, hc]

/-- In every run the clients keep the contracts of their jobs. -/
theorem keeps_run (hcontract : ∀ j : Job, j.operation.Keeps (asks j) (post j) []) (tokens : S)
    (actions : List Action) : (run tokens actions).Keeps asks post :=
  run_induction (motive := fun s => s.Keeps asks post) ⟨by simp [start], by simp [start]⟩
    (fun _ a h => h.step hcontract a) actions

/-- In every run the clients keep the contracts of the operations that they call. -/
theorem keeps_perform_run (tokens : S) (actions : List Action) :
    (run tokens actions).Keeps (fun j => j.manager.Allows j.call)
      (fun j => Manager.Ensures j.call) :=
  keeps_run (fun j => Manager.keeps_perform j.manager j.call) tokens actions

/-! ### Clients that write nothing -/

/-- Whether an update of a client has been applied. -/
def TakesEffect (s : System S) (k : Nat) : Prop :=
  ∃ x ∈ s.log, x.client = k ∧ ∃ e, x.updated? = some e

/-- The replies to a client are those of its turns. -/
lemma mem_repliesTo {k : Nat} {log : List (Turn S)} {reply : Reply} :
    reply ∈ repliesTo k log ↔ ∃ x ∈ log, x.client = k ∧ x.reply = reply := by
  simp [repliesTo, and_assoc]

variable {tokens : S} {actions : List Action} {k : Nat} {c : Client}

/-- A replacement or a partial update without an effect leaves the records as it finds them. -/
theorem quiet_of_not_takesEffect (hc : (run tokens actions).clients[k]? = some c)
    (hcall : c.job.call.rewrites = true) (hnone : ¬(run tokens actions).TakesEffect k)
    {x : Turn S} (hx : x ∈ (run tokens actions).log) (hk : x.client = k) : x.Quiet := by
  obtain ⟨before, after, hlog⟩ := List.append_of_mem hx
  obtain ⟨c', hc', hallows⟩ := (keeps_perform_run tokens actions).asked before x after hlog
  obtain rfl : c = c' := Option.some.inj (hc.symm.trans (hk ▸ hc'))
  rcases Manager.looks_or_update_of_allows hcall hallows with hlooks | ⟨e, hrequest⟩
  · exact Turn.quiet_of_looks hlooks
  · refine Turn.quiet_of_not_updated hrequest (Option.eq_none_iff_forall_ne_some.mpr ?_)
    exact fun e he => hnone ⟨x, hx, hk, e, he⟩

/-- A client without an effect returns no record that it has written. -/
theorem rewritten?_eq_none (hc : (run tokens actions).clients[k]? = some c)
    (hnone : ¬(run tokens actions).TakesEffect k)
    {result : Except RecordError c.job.call.Result} {scope : RequestScope}
    (hdone : c.rest = .done (result, scope)) : c.job.call.rewritten? result = none := by
  have hensures := (keeps_perform_run tokens actions).rest k c hc
  rw [hdone] at hensures
  refine Option.eq_none_iff_forall_ne_some.mpr fun d hd => hnone ?_
  obtain ⟨reply, hreply, hupdated⟩ := hensures d hd
  obtain ⟨x, hx, hk, rfl⟩ := mem_repliesTo.mp hreply
  exact ⟨x, hx, hk, Option.isSome_iff_exists.mp hupdated⟩

end System

end RecordGateway
