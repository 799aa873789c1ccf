import Mathlib.Tactic.Lemma
import RecordGateway.Proofs.Store.RecordMap
import RecordGateway.Proofs.Store.Versions

/-!
# The journal of a store

In a run of a store records are put in directly, calls are made, and other writers act right before
the calls.  What all this does to the records is a list of changes, each of which adds, writes or
erases: first those of the other writers that are due, then the one of the call itself if it has
succeeded.

The list of all changes of a run is the journal of the run.  Replayed from the empty store it gives
the records and the last version that the run gives (`bare_run`), so that what holds after every
list of changes holds at every point of every run, also between the actions of two other writers
before one call.
-/

namespace RecordGateway

/-! ### Changes -/

/-- One change of the records of a store. -/
inductive Change where
  | add (e : Entity) (id : Uuid)
  | write (logicalName : String) (id : Uuid) (f : Attributes → Attributes)
  | erase (logicalName : String) (id : Uuid)

/-- The name and the identifier of the record that a change is about. -/
def Change.key : Change → String × Uuid
  | add e id => (e.logicalName, id)
  | write logicalName id _ => (logicalName, id)
  | erase logicalName id => (logicalName, id)

/-- What another writer changes. -/
def Interference.change (i : Interference) : Change :=
  match i.action with
  | .write name value => .write i.logicalName i.id fun as => as.set name value
  | .delete => .erase i.logicalName i.id

namespace Store

/-- The store after a change. -/
def apply (s : Store) : Change → Store
  | .add e id => s.add e id
  | .write logicalName id f => s.write logicalName id f
  | .erase logicalName id => s.erase logicalName id

/-- The store that a list of changes makes of the empty one. -/
def replay (changes : List Change) : Store :=
  changes.foldl apply empty

/-- A store with nothing but the records and the last version. -/
def bare (s : Store) : Store :=
  { empty with records := s.records, lastVersion := s.lastVersion }

/-- A bare store has the same records. -/
@[simp] lemma bare_records (s : Store) : s.bare.records = s.records := rfl

/-- A bare store has the same last version. -/
@[simp] lemma bare_lastVersion (s : Store) : s.bare.lastVersion = s.lastVersion := rfl

/-- A record is found in a bare store as in the whole one. -/
@[simp] lemma bare_find? (s : Store) (logicalName : String) (id : Uuid) :
    s.bare.find? logicalName id = s.find? logicalName id := rfl

/-- A change touches nothing but the records and the last version. -/
lemma bare_apply (s : Store) (c : Change) : (s.apply c).bare = s.bare.apply c := by
  cases c <;> rfl

/-- Some changes do to a bare store what they do to the whole one. -/
lemma bare_foldl_apply (changes : List Change) (s : Store) :
    (changes.foldl apply s).bare = changes.foldl apply s.bare := by
  induction changes generalizing s with
  | nil => rfl
  | cons c changes ih =>
    rw [List.foldl_cons, List.foldl_cons, ih, bare_apply]

/-- A list of changes is replayed from its start, so that a further change comes last. -/
lemma replay_concat (changes : List Change) (c : Change) :
    replay (changes ++ [c]) = (replay changes).apply c := by
  rw [replay, List.foldl_append]
  rfl

/-- Changes are replayed on top of those that come before them. -/
lemma replay_append (changes changes' : List Change) :
    replay (changes ++ changes') = changes'.foldl apply (replay changes) :=
  List.foldl_append

/-- A change is an edit. -/
lemma edit_apply (s : Store) (c : Change) : s.Edit (s.apply c) := by
  cases c with
  | add e id => exact .add e id
  | write logicalName id f => exact .write logicalName id f
  | erase logicalName id => exact .erase logicalName id

/-- A store develops by changes. -/
lemma develops_foldl_apply (changes : List Change) (s : Store) :
    s.Develops (changes.foldl apply s) := by
  induction changes generalizing s with
  | nil => exact .refl
  | cons c changes ih => exact .head (edit_apply s c) (ih _)

/-- Later points of a journal develop from earlier ones. -/
lemma develops_replay {changes changes' : List Change} (h : changes <+: changes') :
    (replay changes).Develops (replay changes') := by
  obtain ⟨rest, rfl⟩ := h
  rw [replay_append]
  exact develops_foldl_apply _ _

/-! ### Events -/

end Store

/-- What happens to a store from outside. -/
inductive StoreEvent where
  /-- A record is put in directly. -/
  | seed (e : Entity) (fresh : Uuid)
  /-- A record is looked at without a call. -/
  | snapshot (logicalName : String) (id : Uuid)
  | step (step : StoreStep)

/-- The kind of call that a step is. -/
def StoreStep.kind? : StoreStep → Option CallKind
  | create _ _ => some .create
  | retrieve _ _ _ => some .retrieve
  | retrieveMultiple _ => some .retrieveMultiple
  | update _ => some .update
  | delete _ _ => some .delete
  | setRejectWrites _ => none
  | interleave _ => none

/-- The change that a step makes itself, by the answer: one that succeeds makes its change, and one
that fails makes none. -/
def StoreStep.change? : StoreStep → StepAnswer → Option Change
  | create e _, .created (.ok id) => some (.add e id)
  | update e, .updated (.ok ()) => e.id.map fun id => .write e.logicalName id (Store.merged e)
  | delete logicalName id, .deleted (.ok _) => some (.erase logicalName id)
  | _, _ => none

namespace Store

/-- The store after an event. -/
def happen (s : Store) : StoreEvent → Store
  | .seed e fresh => (s.seed e fresh).1
  | .snapshot _ _ => s
  | .step step => (s.perform step).1

/-- The store after a run of events. -/
def run (s : Store) (events : List StoreEvent) : Store :=
  events.foldl happen s

/-- The changes of the other writers that are due before a step. -/
def dueChanges (s : Store) (step : StoreStep) : List Change :=
  match step.kind? with
  | some kind => (s.pending.filter (·.isDue kind)).map Interference.change
  | none => []

/-- The changes that an event makes to the records. -/
def changes (s : Store) : StoreEvent → List Change
  | .seed e fresh => [.add e (e.id.getD fresh)]
  | .snapshot _ _ => []
  | .step step => s.dueChanges step ++ (step.change? (s.perform step).2).toList

/-- The changes that a run of events makes to the records. -/
def journal (s : Store) : List StoreEvent → List Change
  | [] => []
  | event :: events => s.changes event ++ (s.happen event).journal events

/-- Another writer makes one change. -/
lemma interfere_eq_apply (s : Store) (i : Interference) : s.interfere i = s.apply i.change := by
  unfold interfere Interference.change
  cases i.action <;> rfl

/-- Some actions of other writers are the changes that they make, one after the other. -/
lemma foldl_interfere (s : Store) (due : List Interference) :
    due.foldl interfere s = (due.map Interference.change).foldl apply s := by
  rw [List.foldl_map]
  congr 1
  funext s i
  exact interfere_eq_apply s i

/-- At the start of a call the changes of the other writers are made that are due. -/
lemma bare_enter (s : Store) (kind : CallKind) :
    (s.enter kind).bare =
      ((s.pending.filter (·.isDue kind)).map Interference.change).foldl apply s.bare := by
  unfold enter
  rw [foldl_interfere, bare_foldl_apply]
  rfl

section Calls

variable (s : Store)

/-- A creation adds its record if it succeeds, and otherwise changes nothing after the start of the
call. -/
lemma bare_create (e : Entity) (fresh : Uuid) :
    (s.create e fresh).1.bare =
      (StoreStep.change? (.create e fresh) (.created (s.create e fresh).2)).toList.foldl apply
        (s.enter .create).bare := by
  unfold create
  dsimp only
  split
  · rfl
  · split
    · rfl
    · exact bare_apply _ (.add e _)

/-- An update writes its record if it succeeds, and otherwise changes nothing after the start of the
call. -/
lemma bare_update (e : Entity) :
    (s.update e).1.bare =
      (StoreStep.change? (.update e) (.updated (s.update e).2)).toList.foldl apply
        (s.enter .update).bare := by
  cases h : s.update e with
  | mk t result =>
    cases result with
    | ok _ =>
      obtain ⟨-, id, -, hid, -, -, rfl⟩ := update_eq_ok.mp h
      simp only [StoreStep.change?, hid, Option.map_some, Option.toList_some, List.foldl_cons,
        List.foldl_nil]
      exact bare_apply _ (.write e.logicalName id (merged e))
    | error _ =>
      rw [update_eq_error h]
      rfl

/-- A deletion erases its record if it succeeds, and otherwise changes nothing after the start of
the call. -/
lemma bare_delete (logicalName : String) (id : Uuid) :
    (s.delete logicalName id).1.bare =
      (StoreStep.change? (.delete logicalName id)
        (.deleted (s.delete logicalName id).2)).toList.foldl apply (s.enter .delete).bare := by
  unfold delete
  dsimp only
  split
  · rfl
  · exact bare_apply _ (.erase logicalName id)

end Calls

/-- A call does to the records that it finds what its own change does. -/
lemma bare_perform (s : Store) {step : StoreStep} {kind : CallKind} (h : step.kind? = some kind) :
    (s.perform step).1.bare =
      (step.change? (s.perform step).2).toList.foldl apply (s.enter kind).bare := by
  cases step <;> cases h
  case create e fresh => exact bare_create s e fresh
  case retrieve => rfl
  case retrieveMultiple => rfl
  case update e => exact bare_update s e
  case delete logicalName id => exact bare_delete s logicalName id

/-- A step that is no call leaves the records alone. -/
lemma bare_perform_of_kind?_eq_none (s : Store) {step : StoreStep} (h : step.kind? = none) :
    (s.perform step).1.bare = s.bare ∧ step.change? (s.perform step).2 = none := by
  cases step with
  | setRejectWrites reject => exact ⟨rfl, rfl⟩
  | interleave i => exact ⟨rfl, rfl⟩
  | _ => cases h

/-- An event does to the records what its changes do. -/
theorem bare_happen (s : Store) (event : StoreEvent) :
    (s.happen event).bare = (s.changes event).foldl apply s.bare := by
  cases event with
  | seed e fresh => exact bare_apply s (.add e _)
  | snapshot logicalName id => rfl
  | step step =>
    rw [changes, List.foldl_append, dueChanges, happen]
    cases hkind : step.kind? with
    | some kind => rw [bare_perform s hkind, bare_enter]
    | none =>
      obtain ⟨hbare, hchange⟩ := bare_perform_of_kind?_eq_none s hkind
      rw [hbare, hchange]
      rfl

/-! ### Runs -/

/-- A run goes on from the store that its first events have left. -/
lemma run_append (s : Store) (events events' : List StoreEvent) :
    s.run (events ++ events') = (s.run events).run events' :=
  List.foldl_append

/-- The journal of a run goes on with the changes of the later events. -/
lemma journal_append (s : Store) (events events' : List StoreEvent) :
    s.journal (events ++ events') = s.journal events ++ (s.run events).journal events' := by
  induction events generalizing s with
  | nil => rfl
  | cons event events ih =>
    rw [List.cons_append, journal, journal, ih, List.append_assoc]
    rfl

/-- A run does to the records what its journal does. -/
theorem bare_run_from (s : Store) (events : List StoreEvent) :
    (s.run events).bare = (s.journal events).foldl apply s.bare := by
  induction events generalizing s with
  | nil => rfl
  | cons event events ih =>
    rw [journal, List.foldl_append, ← bare_happen]
    exact ih (s.happen event)

/-- The journal of a run from the empty store replays the run. -/
theorem bare_run (events : List StoreEvent) :
    (empty.run events).bare = replay (empty.journal events) :=
  bare_run_from empty events

/-- The records after a run are those that its journal leads to. -/
lemma records_run (events : List StoreEvent) :
    (empty.run events).records = (replay (empty.journal events)).records := by
  rw [← bare_run, bare_records]

/-- The last version after a run is the one that its journal leads to. -/
lemma lastVersion_run (events : List StoreEvent) :
    (empty.run events).lastVersion = (replay (empty.journal events)).lastVersion := by
  rw [← bare_run, bare_lastVersion]

/-- The journal of the first events of a run is the first part of the journal of the run. -/
lemma journal_mono {events events' : List StoreEvent} (h : events <+: events') :
    empty.journal events <+: empty.journal events' := by
  obtain ⟨rest, rfl⟩ := h
  exact ⟨_, (journal_append empty events rest).symm⟩

end Store

end RecordGateway
