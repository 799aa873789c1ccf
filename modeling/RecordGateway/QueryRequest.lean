import RecordGateway.Filter

/-!
# Query requests

What a caller asks for: a filter, the order of the result, the fields to return, and the window
of rows.  Nothing in a request has been checked yet.
-/

namespace RecordGateway

/-- The direction of a sort key. -/
inductive Direction where
  | ascending
  | descending
deriving DecidableEq

/-- A field to sort by. -/
structure SortKey where
  field : String
  direction : Direction
deriving DecidableEq

/-- A query over the fields of a data object. -/
structure QueryRequest where
  filter : Option Filter
  orderBy : List SortKey
  /-- The fields to return; `none` stands for all of them. -/
  select : Option (List String)
  /-- The number of rows to leave out at the start. -/
  skip : Option Int64
  /-- The number of rows to return at most. -/
  top : Option Int64

/-- The request for everything. -/
def QueryRequest.all : QueryRequest where
  filter := none
  orderBy := []
  select := none
  skip := none
  top := none

instance : Inhabited QueryRequest := ⟨.all⟩

end RecordGateway
