import RecordGateway.Records.Manager

/-!
# Records clients

The operations of a manager as its clients see them: every call runs in a scope of its own, and an
error is reduced to what a client is told.
-/

namespace RecordGateway

/-- A client of the records of one kind of data object. -/
structure RecordsClient (D : Type) where
  manager : Manager D

namespace RecordsClient

variable {D P α : Type}

/-- An operation on behalf of a caller, in a scope of its own. -/
def call (caller : Caller) (x : Operation α) : Script (Except ClientError α) := do
  let (result, _) ← x.inScope (.ofCaller caller)
  return result.mapError RecordError.forClient

/-- Creates a record and returns it as it is stored. -/
def insert [DataObject D P] (c : RecordsClient D) (caller : Caller) (data : D) (fresh : Uuid) :
    Script (Except ClientError D) :=
  call caller (c.manager.insert data fresh)

/-- Reads one record. -/
def lookup (c : RecordsClient D) (caller : Caller) (id : String) :
    Script (Except ClientError (Option D)) :=
  call caller (c.manager.lookup id)

/-- Reads the records that a request asks for. -/
def query (c : RecordsClient D) (caller : Caller) (request : QueryRequest) :
    Script (Except ClientError (List D)) :=
  call caller (c.manager.query request)

/-- Replaces a record. -/
def replace [DataObject D P] (c : RecordsClient D) (caller : Caller) (id : String) (data : D) :
    Script (Except ClientError D) :=
  call caller (c.manager.replace id data)

/-- Applies a partial update to a record. -/
def patch [DataObject D P] (c : RecordsClient D) (caller : Caller) (id : String) (update : P) :
    Script (Except ClientError (Option D)) :=
  call caller (c.manager.patch id update)

/-- Deletes a record and tells whether there was one. -/
def delete (c : RecordsClient D) (caller : Caller) (id : String) :
    Script (Except ClientError Bool) :=
  call caller (c.manager.delete id)

/-- Brings a deleted record back. -/
def undelete (c : RecordsClient D) (caller : Caller) (id : String) :
    Script (Except ClientError D) :=
  call caller (c.manager.undelete id)

end RecordsClient

end RecordGateway
