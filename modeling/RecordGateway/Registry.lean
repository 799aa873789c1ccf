import RecordGateway.Data.Kind

/-!
# The mapping registry

Which kinds of data objects are served, under which name the store knows their records, and by
which mapper they are turned into entities.  A kind is registered once, under a name that is an
identifier in lower case.
-/

namespace RecordGateway

/-- Why a kind cannot be registered or is not found. -/
inductive RegistryError where
  | invalidLogicalName (name : String) (kind : RecordKind)
  | duplicate (kind : RecordKind) (logicalName : String)
  | notRegistered (kind : RecordKind)
deriving DecidableEq

/-- The error as a sentence. -/
def RegistryError.message : RegistryError → String
  | invalidLogicalName name kind =>
    s!"invalid logical entity name '{name}' for {kind.typeName}"
  | duplicate kind logicalName =>
    s!"{kind.typeName} is already registered (as '{logicalName}')"
  | notRegistered kind => s!"no entity mapping registered for {kind.typeName}"

/-- How the data objects of a kind are stored. -/
structure Registration (k : RecordKind) where
  logicalName : String
  mapper : Mapper k.Data

/-- The registrations of some kinds. -/
structure Registry where
  find? : (k : RecordKind) → Option (Registration k)

/-- Whether a name is an identifier in lower case. -/
def isLogicalName (name : String) : Bool :=
  match name.toList with
  | [] => false
  | c :: rest => (c.isLower || c == '_') && rest.all fun c => c.isLower || c.isDigit || c == '_'

namespace Registry

/-- The registry without registrations. -/
def empty : Registry where
  find? _ := none

/-- The registry with the registration of a kind set. -/
def set {k : RecordKind} (r : Registry) (registration : Registration k) : Registry where
  find? k' := if h : k = k' then some (h ▸ registration) else r.find? k'

/-- The registry with a kind registered. -/
def register (r : Registry) (k : RecordKind) (logicalName : String) (mapper : Mapper k.Data) :
    Except RegistryError Registry :=
  if !isLogicalName logicalName then .error (.invalidLogicalName logicalName k)
  else match r.find? k with
    | some existing => .error (.duplicate k existing.logicalName)
    | none => .ok (r.set ⟨logicalName, mapper⟩)

/-- The registration of a kind. -/
def resolve (r : Registry) (k : RecordKind) : Except RegistryError (Registration k) :=
  match r.find? k with
  | some registration => .ok registration
  | none => .error (.notRegistered k)

/-- The name under which the store knows the records of a kind. -/
def logicalName? (r : Registry) (k : RecordKind) : Option String :=
  (r.find? k).map Registration.logicalName

/-- The number of registrations. -/
def size (r : Registry) : Nat :=
  RecordKind.all.countP fun k => (r.find? k).isSome

end Registry

end RecordGateway
