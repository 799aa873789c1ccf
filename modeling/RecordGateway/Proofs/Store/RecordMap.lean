import RecordGateway.Proofs.Attributes
import RecordGateway.Store.Calls

/-!
# Maps of records

What a store is meant to be: a finite map from names and identifiers to versions and attribute
values, with the calls of a store described by what they do to the map.  Of the other parts of a
store only those are kept that the answers depend on: the last version, whether writing is
disabled, and the actions of other writers that are still to come.
-/

namespace RecordGateway

/-- What a map holds for a record. -/
structure Row where
  version : Nat
  /-- The values of the attributes. -/
  value : String → Option Value

namespace Row

/-- The row of a new record: the attributes of the entity, and the identifier. -/
def ofEntity (e : Entity) (id : Uuid) (version : Nat) : Row where
  version
  value name := if name = primaryAttribute e.logicalName then some (.uuid id) else e.get? name

/-- The row with one attribute written. -/
def write (row : Row) (name : String) (value : Value) (version : Nat) : Row where
  version
  value n := if n = name then some value else row.value n

/-- The row with the attributes of an entity written over it, except for the identifier. -/
def update (row : Row) (e : Entity) (version : Nat) : Row where
  version
  value name :=
    if name = primaryAttribute e.logicalName then row.value name
    else (e.get? name).or (row.value name)

end Row

/-- An entity by the values of its attributes. -/
structure EntityView where
  logicalName : String
  id : Option Uuid
  rowVersion : Option String
  value : String → Option Value

/-- The entity by the values of its attributes. -/
def Entity.view (e : Entity) : EntityView where
  logicalName := e.logicalName
  id := e.id
  rowVersion := e.rowVersion
  value := e.get?

/-- An entity is determined by the values of its attributes. -/
theorem Entity.view_injective : Function.Injective Entity.view := by
  rintro ⟨name, id, version, as⟩ ⟨name', id', version', as'⟩ h
  obtain ⟨rfl, rfl, rfl, hvalue⟩ := EntityView.mk.inj h
  rw [show as = as' from Attributes.ext_get? fun n => congrFun hvalue n]

/-- What a reader gets of a row: the given columns, and always the identifier. -/
def Row.view (row : Row) (logicalName : String) (id : Uuid) (columns : ColumnSet) :
    EntityView where
  logicalName
  id := some id
  rowVersion := some (versionToken row.version)
  value name :=
    if name = primaryAttribute logicalName ∨ columns.includes name = true then row.value name
    else none

/-- Rows by name and identifier. -/
abbrev RecordMap := String → Uuid → Option Row

/-- The map with one entry set, or taken out. -/
def RecordMap.put (m : RecordMap) (logicalName : String) (id : Uuid) (row : Option Row) :
    RecordMap :=
  fun name key => if name = logicalName ∧ key = id then row else m name key

/-! ### Steps and answers -/

/-- What can be done with a store. -/
inductive StoreStep where
  | create (e : Entity) (fresh : Uuid)
  | retrieve (logicalName : String) (id : Uuid) (columns : ColumnSet)
  | retrieveMultiple (q : NativeQuery)
  | update (e : Entity)
  | delete (logicalName : String) (id : Uuid)
  | setRejectWrites (reject : Bool)
  | interleave (i : Interference)

/-- What a step is answered with; what a query selects is left out. -/
inductive StepAnswer where
  | created (result : Except StoreError Uuid)
  | read (result : Except StoreError (Option EntityView))
  | updated (result : Except StoreError Unit)
  | deleted (result : Except StoreError Bool)
  | nothing

/-- The store after a step, and the answer. -/
def Store.perform (s : Store) : StoreStep → Store × StepAnswer
  | .create e fresh => ((s.create e fresh).1, .created (s.create e fresh).2)
  | .retrieve logicalName id columns =>
    ((s.retrieve logicalName id columns).1,
      .read ((s.retrieve logicalName id columns).2.map (Option.map Entity.view)))
  | .retrieveMultiple q => ((s.retrieveMultiple q).1, .nothing)
  | .update e => ((s.update e).1, .updated (s.update e).2)
  | .delete logicalName id => ((s.delete logicalName id).1, .deleted (s.delete logicalName id).2)
  | .setRejectWrites reject => (s.setRejectWrites reject, .nothing)
  | .interleave i => (s.interleave i, .nothing)

/-- The store after several steps, and the answers. -/
def Store.performAll (s : Store) : List StoreStep → Store × List StepAnswer
  | [] => (s, [])
  | step :: steps =>
    let (s, answer) := s.perform step
    let (s, answers) := s.performAll steps
    (s, answer :: answers)

/-! ### The same steps on a map -/

/-- A map of records, with what its answers depend on besides. -/
@[ext]
structure MapStore where
  rows : RecordMap
  lastVersion : Nat
  rejectWrites : Bool
  pending : List Interference

namespace MapStore

/-- The map after another writer has acted. -/
def interfere (s : MapStore) (i : Interference) : MapStore :=
  match i.action with
  | .write name value => { s with
      rows := s.rows.put i.logicalName i.id
        ((s.rows i.logicalName i.id).map (·.write name value (s.lastVersion + 1)))
      lastVersion := s.lastVersion + 1 }
  | .delete => { s with rows := s.rows.put i.logicalName i.id none }

/-- The map at the start of a call, when the other writers have acted that are due. -/
def enter (s : MapStore) (kind : CallKind) : MapStore :=
  (s.pending.filter (·.isDue kind)).foldl interfere
    { s with pending := (s.pending.filter fun i => !i.isDue kind).map (·.wait kind) }

/-- The map after a step, and the answer. -/
def perform (s : MapStore) : StoreStep → MapStore × StepAnswer
  | .create e fresh =>
    let s := s.enter .create
    let id := e.id.getD fresh
    if s.rejectWrites then (s, .created (.error Store.writesDisabled))
    else if (s.rows e.logicalName id).isSome then
      (s, .created (.error (.rejected s!"{e.logicalName} record {id.toText} already exists")))
    else ({ s with
      rows := s.rows.put e.logicalName id (some (.ofEntity e id (s.lastVersion + 1)))
      lastVersion := s.lastVersion + 1 }, .created (.ok id))
  | .retrieve logicalName id columns =>
    let s := s.enter .retrieve
    (s, .read (.ok ((s.rows logicalName id).map (·.view logicalName id columns))))
  | .retrieveMultiple _ => (s.enter .retrieveMultiple, .nothing)
  | .update e =>
    let s := s.enter .update
    if s.rejectWrites then (s, .updated (.error Store.writesDisabled))
    else match e.id with
      | none => (s, .updated (.error (.rejected "update requires a record id")))
      | some id => match s.rows e.logicalName id with
        | none => (s, .updated (.error (.recordNotFound e.logicalName id)))
        | some row =>
          if e.rowVersion.any fun expected => expected != versionToken row.version then
            (s, .updated (.error (.versionMismatch e.logicalName id)))
          else ({ s with
            rows := s.rows.put e.logicalName id (some (row.update e (s.lastVersion + 1)))
            lastVersion := s.lastVersion + 1 }, .updated (.ok ()))
  | .delete logicalName id =>
    let s := s.enter .delete
    if s.rejectWrites then (s, .deleted (.error Store.writesDisabled))
    else ({ s with rows := s.rows.put logicalName id none },
      .deleted (.ok (s.rows logicalName id).isSome))
  | .setRejectWrites reject => ({ s with rejectWrites := reject }, .nothing)
  | .interleave i => ({ s with pending := s.pending ++ [i] }, .nothing)

/-- The map after several steps, and the answers. -/
def performAll (s : MapStore) : List StoreStep → MapStore × List StepAnswer
  | [] => (s, [])
  | step :: steps =>
    let (s, answer) := s.perform step
    let (s, answers) := s.performAll steps
    (s, answer :: answers)

end MapStore

end RecordGateway
