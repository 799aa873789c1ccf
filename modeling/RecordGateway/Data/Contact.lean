import RecordGateway.Mapping.Basic

/-!
# Contacts

Persons as data objects, and their records of the kind `contact`.
-/

namespace RecordGateway

/-- A person. -/
structure Contact where
  id : Option String
  version : Option String
  name : String
  city : Option String
  age : Option Int64
  email : Option String
  phone : Option String
deriving DecidableEq

namespace Contact

/-- A partial update of a person. -/
structure Patch where
  version : Option String
  name : Option String
  city : FieldUpdate String
  age : FieldUpdate Int64
  email : FieldUpdate String
  phone : FieldUpdate String
deriving DecidableEq

/-- The person with the fields of a partial update replaced. -/
def applyPatch (c : Contact) (p : Patch) : Contact where
  id := c.id
  version := p.version.orElse fun _ => c.version
  name := p.name.getD c.name
  city := p.city.apply c.city
  age := p.age.apply c.age
  email := p.email.apply c.email
  phone := p.phone.apply c.phone

instance : DataObject Contact Patch where
  id := Contact.id
  version := Contact.version
  applyPatch := applyPatch

/-- The store's name for the records of persons. -/
def logicalName : String := "contact"

/-- The attribute behind a field. -/
def attributeOf? : String → Option String
  | "id" => some "contactid"
  | "name" => some "fullname"
  | "city" => some "address1_city"
  | "age" => some "new_age"
  | "email" => some "emailaddress1"
  | "phone" => some "telephone1"
  | _ => none

/-- The entity of a person. -/
def toEntity (c : Contact) : Entity :=
  (Entity.named logicalName)
    |>.set "fullname" (.string c.name)
    |>.set "address1_city" (Value.ofOption .string c.city)
    |>.set "new_age" (Value.ofOption .int c.age)
    |>.set "emailaddress1" (Value.ofOption .string c.email)
    |>.set "telephone1" (Value.ofOption .string c.phone)

/-- The person of an entity; a record without a name has the empty one. -/
def ofEntity (e : Entity) : Contact where
  id := e.id.map Uuid.toText
  version := e.rowVersion
  name := (e.getString? "fullname").getD ""
  city := e.getString? "address1_city"
  age := (e.get? "new_age").bind Value.asInt?
  email := e.getString? "emailaddress1"
  phone := e.getString? "telephone1"

/-- The mapping between persons and the records of the kind `contact`. -/
def mapper : Mapper Contact where
  attributeOf?
  toStored _ value := .ok value
  toEntity c := .ok c.toEntity
  toData e := .ok (ofEntity e)

end Contact

end RecordGateway
