import RecordGateway.Store.Basic
import RecordGateway.Store.Error
import RecordGateway.Store.Sorting

/-!
# Calls to the store

The calls that a session offers.  Each one first lets the other writers act that are due before
it, and then does its own work on the store that they leave.
-/

namespace RecordGateway.Store

/-- The refusal of every write while writing is disabled. -/
def writesDisabled : StoreError :=
  .rejected "writes are disabled"

/-- Opens a session; the token must not be empty. -/
def connect (s : Store) (token : String) : Store × Except StoreError Unit :=
  if token = "" then (s, .error (.unauthorized "empty access token"))
  else ({ s with
    counts := { s.counts with connections := s.counts.connections + 1 }
    tokensSeen := s.tokensSeen ++ [token] }, .ok ())

/-- Creates a record; an entity without an identifier gets `fresh`. -/
def create (s : Store) (e : Entity) (fresh : Uuid) : Store × Except StoreError Uuid :=
  let s := s.enter .create
  let id := e.id.getD fresh
  if s.rejectWrites then (s, .error writesDisabled)
  else if (s.find? e.logicalName id).isSome then
    (s, .error (.rejected s!"{e.logicalName} record {id.toText} already exists"))
  else (s.add e id, .ok id)

/-- Reads one record. -/
def retrieve (s : Store) (logicalName : String) (id : Uuid) (columns : ColumnSet) :
    Store × Except StoreError (Option Entity) :=
  let s := s.enter .retrieve
  (s, .ok ((s.find? logicalName id).map (·.toEntity columns)))

/-- The records of a list that a query asks for, in its order, before paging. -/
def rows (q : NativeQuery) (records : List StoredRecord) : List StoredRecord :=
  let matching := records.filter fun r =>
    r.logicalName == q.entityName && q.criteria.holds r.attributes
  if q.orders.isEmpty then matching
  else matching.mergeSort fun a b => compareRecords q.orders a.attributes b.attributes != .gt

/-- The members of a list that stand on a page. -/
def onPage {α : Type} (page : Option Page) (rows : List α) : List α :=
  match page with
  | some p => (rows.drop p.offset).take p.count.toNat
  | none => rows

/-- The entities that a query asks for. -/
def select (s : Store) (q : NativeQuery) : List Entity :=
  (onPage q.page (rows q s.records)).map (·.toEntity q.columns)

/-- Reads the records that a query asks for. -/
def retrieveMultiple (s : Store) (q : NativeQuery) : Store × Except StoreError (List Entity) :=
  let s := s.enter .retrieveMultiple
  (s, .ok (s.select q))

/-- The attributes of a record with those of an entity written over them, except for the one that
holds the identifier. -/
def merged (e : Entity) (as : Attributes) : Attributes :=
  as.setAll (e.attributes.entries.filter fun entry => entry.1 != primaryAttribute e.logicalName)

/-- Changes a record.  An entity with a row version changes it only if it is still at that
version. -/
def update (s : Store) (e : Entity) : Store × Except StoreError Unit :=
  let s := s.enter .update
  if s.rejectWrites then (s, .error writesDisabled)
  else match e.id with
    | none => (s, .error (.rejected "update requires a record id"))
    | some id => match s.find? e.logicalName id with
      | none => (s, .error (.recordNotFound e.logicalName id))
      | some r =>
        if e.rowVersion.any fun expected => expected != versionToken r.version then
          (s, .error (.versionMismatch e.logicalName id))
        else (s.write e.logicalName id (merged e), .ok ())

/-- Deletes a record and tells whether there was one. -/
def delete (s : Store) (logicalName : String) (id : Uuid) : Store × Except StoreError Bool :=
  let s := s.enter .delete
  if s.rejectWrites then (s, .error writesDisabled)
  else (s.erase logicalName id, .ok (s.find? logicalName id).isSome)

end RecordGateway.Store
