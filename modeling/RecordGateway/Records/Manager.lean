import RecordGateway.Compilation.Basic
import RecordGateway.Records.Session
import RecordGateway.Text.Blank

/-!
# Record managers

The operations on the records of one kind of data object: insert, look up, query, replace, patch
and delete.  What can be refused without the store is refused before a session is opened.

Identifiers arrive as texts.  A text that is no identifier names no record, so `lookup`, `patch`
and `delete` find nothing there, while `insert` and `replace` refuse it.

A record is replaced only at the version that the data object carries: the version is compared
when the record is read, and once more by the store when the update is applied.
-/

namespace RecordGateway

/-- What the operations on one kind of data object need to know. -/
structure Manager (D : Type) where
  /-- The store's name for this kind of record. -/
  logicalName : String
  mapper : Mapper D
  settings : ConnectionSettings
  /-- The number of rows that a query may ask for at most. -/
  maxPageSize : UInt32

/-- Reads an identifier with blanks around it. -/
def idOfText? (text : String) : Option Uuid :=
  Uuid.ofChars? (Text.trim text.toList)

/-- The refusal of a text that is no identifier. -/
def malformedId (text : String) : RecordError :=
  .validation "id" s!"'{text}' is not a valid record id"

/-- The identifier that a data object carries, unless it is blank. -/
def givenId? {D P : Type} [DataObject D P] (data : D) : Option String :=
  (DataObject.id data).filter fun text => !Text.onlyBlanks text

/-- The concurrency token that a data object carries, unless it is empty. -/
def givenVersion? {D P : Type} [DataObject D P] (data : D) : Option String :=
  (DataObject.version data).filter (· ≠ "")

namespace Manager

variable {D P : Type}

/-- The entity of a data object, which has to be of the manager's kind. -/
def entityOf (m : Manager D) (data : D) : Except RecordError Entity :=
  match m.mapper.toEntity data with
  | .error e => .error (.ofMappingIn e)
  | .ok entity =>
    if entity.logicalName = m.logicalName then .ok entity
    else .error (.validation "data"
      s!"mapped to entity '{entity.logicalName}', expected '{m.logicalName}'")

/-- The data object of a stored entity. -/
def dataOf (m : Manager D) (e : Entity) : Except RecordError D :=
  (m.mapper.toData e).mapError .ofMappingOut

/-- Opens a session unless the scope has one. -/
def connect (m : Manager D) : Operation Unit :=
  acquire m.settings

/-- Reads the data object of a record. -/
def fetch (m : Manager D) (id : Uuid) : Operation (Option D) := do
  match ← Session.retrieve m.logicalName id .all with
  | none => return none
  | some e => some <$> .ofResult (m.dataOf e)

/-- The identifier for a new record, if the data object carries one. -/
def presetId [DataObject D P] (data : D) : Except RecordError (Option Uuid) :=
  match givenId? data with
  | none => .ok none
  | some text => match idOfText? text with
    | some id => .ok (some id)
    | none => .error (malformedId text)

/-- Creates a record and returns it as it is stored.  Without an identifier of its own it gets the
identifier `fresh`. -/
def insert [DataObject D P] (m : Manager D) (data : D) (fresh : Uuid) : Operation D := do
  let entity ← .ofResult (m.entityOf data)
  let preset ← .ofResult (presetId data)
  m.connect
  let id ← Session.create { entity with id := preset, rowVersion := none } fresh
  match ← m.fetch id with
  | some created => return created
  | none => throw (.store (.internal
      s!"{m.logicalName} record {id.toText} is missing right after create"))

/-- Reads one record. -/
def lookup (m : Manager D) (idText : String) : Operation (Option D) := do
  match idOfText? idText with
  | none => return none
  | some id =>
    m.connect
    m.fetch id

/-- Reads the records that a request asks for, in the order of the store.  A request for no rows
is answered without the store. -/
def query (m : Manager D) (request : QueryRequest) : Operation (List D) := do
  let native ← .ofExcept .query
    (request.compile m.mapper.toResolver m.maxPageSize m.logicalName)
  if native.yieldsNothing then return []
  else
    m.connect
    let entities ← Session.retrieveMultiple native
    .ofResult (entities.mapM m.dataOf)

/-- What a replacement needs: the identifier of the record, the version it has to be at, and the
entity to write. -/
def replacement [DataObject D P] (m : Manager D) (idText : String) (data : D) :
    Except RecordError (Uuid × String × Entity) :=
  match idOfText? idText with
  | none => .error (malformedId idText)
  | some id =>
    match (givenId? data).filter fun text => idOfText? text ≠ some id with
    | some other => .error (.validation "id"
        s!"record identity is immutable: body names '{other}', path names '{idText}'")
    | none => match givenVersion? data with
      | none => .error (.validation "version" "concurrency token is required")
      | some version => do
        let entity ← m.entityOf data
        .ok (id, version, { entity with id := some id, rowVersion := some version })

/-- Replaces a record, provided that it is still at the version that the data object carries. -/
def replace [DataObject D P] (m : Manager D) (idText : String) (data : D) : Operation D := do
  let (id, version, entity) ← .ofResult (m.replacement idText data)
  m.connect
  match ← Session.retrieve m.logicalName id (.only []) with
  | none => throw (.notFound m.logicalName idText)
  | some current =>
    if current.rowVersion ≠ some version then
      throw (.conflict m.logicalName idText "concurrency token does not match the stored record")
    else
      Session.update entity
      match ← m.fetch id with
      | some updated => return updated
      | none => throw (.notFound m.logicalName idText)

/-- Reads a record, applies a partial update to it, and replaces it.  The version that has to be
met is the one of the update, or else the one that was read. -/
def patch [DataObject D P] (m : Manager D) (idText : String) (update : P) :
    Operation (Option D) := do
  match ← m.lookup idText with
  | none => return none
  | some current =>
    tryCatch (some <$> m.replace idText (DataObject.applyPatch current update)) fun
      | .notFound _ _ => return none
      | e => throw e

/-- Deletes a record and tells whether there was one. -/
def delete (m : Manager D) (idText : String) : Operation Bool := do
  match idOfText? idText with
  | none => return false
  | some id =>
    m.connect
    Session.delete m.logicalName id

/-- Brings a deleted record back, which no store can do. -/
def undelete (_ : Manager D) (_ : String) : Operation D :=
  throw (.notImplemented "undelete")

end Manager

end RecordGateway
