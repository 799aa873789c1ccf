import RecordGateway.Criteria
import RecordGateway.QueryRequest

/-!
# Native queries

A query in the store's own terms: attributes instead of fields, criteria instead of a filter,
and numbered pages instead of a window of rows.
-/

namespace RecordGateway

/-- The attributes that a read returns. -/
inductive ColumnSet where
  | all
  | only (attributes : List String)
deriving DecidableEq

/-- Whether an attribute is returned. -/
def ColumnSet.includes : ColumnSet → String → Bool
  | all, _ => true
  | only attributes, name => attributes.contains name

/-- An attribute to sort by. -/
structure SortOrder where
  attributeName : String
  direction : Direction
deriving DecidableEq

/-- A page of a result: the number of rows on a page, and which page, counted from one. -/
structure Page where
  count : UInt32
  number : UInt32
deriving DecidableEq

/-- The number of rows in front of the page. -/
def Page.offset (p : Page) : Nat :=
  (p.number.toNat - 1) * p.count.toNat

/-- A query that a store executes. -/
structure NativeQuery where
  /-- The store's name for the kind of record. -/
  entityName : String
  criteria : Criteria
  columns : ColumnSet
  orders : List SortOrder
  page : Option Page

/-- Whether the query asks for a page without rows. -/
def NativeQuery.yieldsNothing (q : NativeQuery) : Bool :=
  match q.page with
  | some p => p.count == 0
  | none => false

end RecordGateway
