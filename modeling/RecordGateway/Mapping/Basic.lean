import RecordGateway.Entity

/-!
# Mappings

How data objects and the records of a store correspond.  A resolver knows the attribute behind
each field and how literals of that attribute are written; a mapper is a resolver that also turns
whole data objects into entities and back.
-/

namespace RecordGateway

/-- Why a data object and an entity do not correspond. -/
inductive MappingError where
  | missingField (field : String)
  | invalidValue (field : String) (reason : String)
  | wrongEntity (expected actual : String)
deriving DecidableEq

/-- The error as a sentence. -/
def MappingError.message : MappingError → String
  | missingField field => s!"required field '{field}' is missing"
  | invalidValue field reason => s!"field '{field}' has an invalid value: {reason}"
  | wrongEntity expected actual => s!"expected entity '{expected}', got '{actual}'"

/-- The attributes behind the fields of a data object. -/
structure Resolver where
  /-- The attribute that holds a field. -/
  attributeOf? : String → Option String
  /-- A literal as the given attribute holds it. -/
  toStored : String → Value → Except MappingError Value

/-- Data objects with identity and version, and the partial updates that apply to them. -/
class DataObject (D : Type) (Patch : outParam Type) where
  /-- The identifier as the caller wrote it. -/
  id : D → Option String
  /-- The concurrency token that the object was read with. -/
  version : D → Option String
  /-- The object with the fields of a partial update replaced. -/
  applyPatch : D → Patch → D

/-- The correspondence between data objects and entities. -/
structure Mapper (D : Type) extends Resolver where
  toEntity : D → Except MappingError Entity
  toData : Entity → Except MappingError D

/-- The value of an optional field: null if there is none. -/
def Value.ofOption {α : Type} (wrap : α → Value) : Option α → Value
  | some a => wrap a
  | none => .null

/-- A partial update of an optional field: absent, or a new content that may be none. -/
abbrev FieldUpdate (α : Type) := Option (Option α)

/-- The content of a field after a partial update. -/
def FieldUpdate.apply {α : Type} (update : FieldUpdate α) (current : Option α) : Option α :=
  match update with
  | some content => content
  | none => current

end RecordGateway
