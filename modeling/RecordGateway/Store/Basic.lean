import RecordGateway.Entity
import RecordGateway.NativeQuery

/-!
# The record store

A store in memory: its records in the order in which they were created, the counter that row
versions are drawn from, and what is needed to watch and to disturb it, the numbers of calls, the
access tokens seen, a switch that disables writing, and writes of others that are scheduled to
fall between the calls.
-/

namespace RecordGateway

/-- The kinds of calls to a store. -/
inductive CallKind where
  | create
  | retrieve
  | retrieveMultiple
  | update
  | delete
deriving DecidableEq

/-- The numbers of calls that a store has seen. -/
structure CallCounts where
  connections : Nat
  creates : Nat
  retrieves : Nat
  queries : Nat
  updates : Nat
  deletes : Nat
deriving DecidableEq

namespace CallCounts

/-- No calls at all. -/
def zero : CallCounts := ⟨0, 0, 0, 0, 0, 0⟩

/-- The number of calls other than connections. -/
def calls (c : CallCounts) : Nat :=
  c.creates + c.retrieves + c.queries + c.updates + c.deletes

/-- The numbers with one more call of a kind. -/
def count (c : CallCounts) : CallKind → CallCounts
  | .create => { c with creates := c.creates + 1 }
  | .retrieve => { c with retrieves := c.retrieves + 1 }
  | .retrieveMultiple => { c with queries := c.queries + 1 }
  | .update => { c with updates := c.updates + 1 }
  | .delete => { c with deletes := c.deletes + 1 }

end CallCounts

/-- What another writer does to a record. -/
inductive ForeignAction where
  | write (name : String) (value : Value)
  | delete
deriving DecidableEq

/-- An action of another writer, due right before the call of a kind after the next `skip` calls
of that kind. -/
structure Interference where
  before : CallKind
  skip : Nat
  logicalName : String
  id : Uuid
  action : ForeignAction
deriving DecidableEq

/-- A record in a store. -/
structure StoredRecord where
  /-- The kind of the record. -/
  logicalName : String
  id : Uuid
  /-- The row version that the last write to the record gave it. -/
  version : Nat
  attributes : Attributes
deriving DecidableEq

/-- A record store. -/
structure Store where
  /-- The records of all kinds in the order of their creation. -/
  records : List StoredRecord
  /-- The last row version that was given to a record. -/
  lastVersion : Nat
  counts : CallCounts
  /-- The access tokens of the sessions in the order in which they were opened. -/
  tokensSeen : List String
  /-- Whether every create, update and delete is rejected. -/
  rejectWrites : Bool
  /-- The actions of other writers that are still to come, in the order of their scheduling. -/
  pending : List Interference
deriving DecidableEq

/-- The name of the attribute that holds the identifier of a record. -/
def primaryAttribute (logicalName : String) : String :=
  logicalName ++ "id"

/-- A row version as a concurrency token. -/
def versionToken (version : Nat) : String :=
  String.ofList (Text.decimalDigits version)

namespace StoredRecord

/-- Whether this is the record of a kind with an identifier. -/
def isAt (logicalName : String) (id : Uuid) (r : StoredRecord) : Bool :=
  r.logicalName == logicalName && r.id == id

/-- The record as an entity with the given columns; the identifier's attribute is always among
them. -/
def toEntity (columns : ColumnSet) (r : StoredRecord) : Entity where
  logicalName := r.logicalName
  id := some r.id
  rowVersion := some (versionToken r.version)
  attributes := r.attributes.restrict fun name =>
    name == primaryAttribute r.logicalName || columns.includes name

end StoredRecord

/-- The list with its first member that satisfies `p` changed. -/
def modifyFirst {α : Type} (p : α → Bool) (f : α → α) : List α → List α
  | [] => []
  | a :: rest => if p a then f a :: rest else a :: modifyFirst p f rest

namespace Store

/-- A store without records. -/
def empty : Store where
  records := []
  lastVersion := 0
  counts := .zero
  tokensSeen := []
  rejectWrites := false
  pending := []

instance : Inhabited Store := ⟨empty⟩

/-- The record of a kind with an identifier; of several the first. -/
def find? (s : Store) (logicalName : String) (id : Uuid) : Option StoredRecord :=
  s.records.find? (·.isAt logicalName id)

/-- The number of records of a kind. -/
def recordCount (s : Store) (logicalName : String) : Nat :=
  s.records.countP (·.logicalName == logicalName)

/-- The record of a kind with an identifier as it is now, all columns included. -/
def snapshot (s : Store) (logicalName : String) (id : Uuid) : Option Entity :=
  (s.find? logicalName id).map (·.toEntity .all)

/-- The store with a new record, which gets the next row version. -/
def add (s : Store) (e : Entity) (id : Uuid) : Store :=
  { s with
    records := s.records ++ [{
      logicalName := e.logicalName
      id
      version := s.lastVersion + 1
      attributes := e.attributes.set (primaryAttribute e.logicalName) (.uuid id) }]
    lastVersion := s.lastVersion + 1 }

/-- The store with one record changed, which gets the next row version.  The version is used up
even if there is no such record. -/
def write (s : Store) (logicalName : String) (id : Uuid) (f : Attributes → Attributes) : Store :=
  { s with
    records := modifyFirst (·.isAt logicalName id)
      (fun r => { r with version := s.lastVersion + 1, attributes := f r.attributes }) s.records
    lastVersion := s.lastVersion + 1 }

/-- The store without the records of a kind with an identifier. -/
def erase (s : Store) (logicalName : String) (id : Uuid) : Store :=
  { s with records := s.records.filter fun r => !r.isAt logicalName id }

/-- The store with a record put in directly; an entity without an identifier gets `fresh`. -/
def seed (s : Store) (e : Entity) (fresh : Uuid) : Store × Uuid :=
  let id := e.id.getD fresh
  (s.add e id, id)

/-- The store with an action of another writer scheduled. -/
def interleave (s : Store) (i : Interference) : Store :=
  { s with pending := s.pending ++ [i] }

/-- The store with writing disabled or enabled. -/
def setRejectWrites (s : Store) (reject : Bool) : Store :=
  { s with rejectWrites := reject }

/-- The store after another writer has acted. -/
def interfere (s : Store) (i : Interference) : Store :=
  match i.action with
  | .write name value => s.write i.logicalName i.id fun as => as.set name value
  | .delete => s.erase i.logicalName i.id

end Store

/-- Whether an action is due before a call of the given kind. -/
def Interference.isDue (kind : CallKind) (i : Interference) : Bool :=
  i.before == kind && i.skip == 0

/-- The action with one call of the given kind less to wait for. -/
def Interference.wait (kind : CallKind) (i : Interference) : Interference :=
  if i.before = kind then { i with skip := i.skip - 1 } else i

/-- The store at the start of a call: the call is counted, and then the actions that are due
before it are taken in the order in which they were scheduled. -/
def Store.enter (s : Store) (kind : CallKind) : Store :=
  let due := s.pending.filter (·.isDue kind)
  let later := (s.pending.filter fun i => !i.isDue kind).map (·.wait kind)
  due.foldl Store.interfere { s with counts := s.counts.count kind, pending := later }

end RecordGateway
