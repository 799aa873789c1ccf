import RecordGateway.Mapping.Basic
import RecordGateway.Text.Blank

/-!
# Accounts

Companies as data objects, and their records of the kind `account`.
-/

namespace RecordGateway

/-- A company. -/
structure Account where
  id : Option String
  version : Option String
  name : String
  phone : Option String
  employees : Option Int64
  city : Option String
deriving DecidableEq

namespace Account

/-- A partial update of a company. -/
structure Patch where
  version : Option String
  name : Option String
  phone : FieldUpdate String
  employees : FieldUpdate Int64
  city : FieldUpdate String
deriving DecidableEq

/-- The company with the fields of a partial update replaced. -/
def applyPatch (a : Account) (p : Patch) : Account where
  id := a.id
  version := p.version.orElse fun _ => a.version
  name := p.name.getD a.name
  phone := p.phone.apply a.phone
  employees := p.employees.apply a.employees
  city := p.city.apply a.city

instance : DataObject Account Patch where
  id := Account.id
  version := Account.version
  applyPatch := applyPatch

/-- The store's name for the records of companies. -/
def logicalName : String := "account"

/-- The attribute behind a field. -/
def attributeOf? : String → Option String
  | "id" => some "accountid"
  | "name" => some "name"
  | "phone" => some "telephone1"
  | "employees" => some "numberofemployees"
  | "city" => some "address1_city"
  | _ => none

/-- The entity of a company, which must have a name. -/
def toEntity (a : Account) : Except MappingError Entity :=
  if Text.onlyBlanks a.name then .error (.missingField "name")
  else .ok <| (Entity.named logicalName)
    |>.set "name" (.string a.name)
    |>.set "telephone1" (Value.ofOption .string a.phone)
    |>.set "numberofemployees" (Value.ofOption .int a.employees)
    |>.set "address1_city" (Value.ofOption .string a.city)

/-- The company of an entity, which must have an identifier and a name. -/
def ofEntity (e : Entity) : Except MappingError Account :=
  match e.id, e.getString? "name" with
  | none, _ => .error (.missingField "accountid")
  | some _, none => .error (.missingField "name")
  | some id, some name => .ok {
      id := some id.toText
      version := e.rowVersion
      name
      phone := e.getString? "telephone1"
      employees := (e.get? "numberofemployees").bind Value.asInt?
      city := e.getString? "address1_city" }

/-- The mapping between companies and the records of the kind `account`. -/
def mapper : Mapper Account where
  attributeOf?
  toStored _ value := .ok value
  toEntity
  toData := ofEntity

end Account

end RecordGateway
