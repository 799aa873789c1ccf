import RecordGateway.Attributes

/-!
# Entities

The form in which records travel to and from a store: the name of the kind of record, the
identifier and the row version if they are known, and the attributes.
-/

namespace RecordGateway

/-- A record as it is sent to a store or received from one. -/
structure Entity where
  /-- The store's name for this kind of record. -/
  logicalName : String
  id : Option Uuid
  /-- The token of the version that was read or is expected. -/
  rowVersion : Option String
  attributes : Attributes
deriving DecidableEq

namespace Entity

/-- An entity with nothing but its logical name. -/
def named (logicalName : String) : Entity where
  logicalName
  id := none
  rowVersion := none
  attributes := .empty

/-- The entity with one attribute set. -/
def set (e : Entity) (name : String) (value : Value) : Entity :=
  { e with attributes := e.attributes.set name value }

/-- The value of an attribute. -/
def get? (e : Entity) (name : String) : Option Value :=
  e.attributes.get? name

/-- The string in an attribute. -/
def getString? (e : Entity) (name : String) : Option String :=
  (e.get? name).bind Value.asString?

/-- The entity without one attribute. -/
def remove (e : Entity) (name : String) : Entity :=
  { e with attributes := e.attributes.remove name }

/-- The entity without attributes. -/
def clear (e : Entity) : Entity :=
  { e with attributes := .empty }

end Entity

end RecordGateway
