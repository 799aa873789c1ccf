import RecordGateway.Data.Account
import RecordGateway.Data.Contact

/-!
# Kinds of data objects

The kinds of data objects that the gateway serves, each with its type and its partial updates.
-/

namespace RecordGateway

/-- A kind of data object. -/
inductive RecordKind where
  | account
  | contact
deriving DecidableEq

namespace RecordKind

/-- All kinds. -/
def all : List RecordKind := [account, contact]

/-- The data objects of a kind. -/
abbrev Data : RecordKind → Type
  | account => Account
  | contact => Contact

/-- The partial updates of a kind. -/
abbrev Patch : RecordKind → Type
  | account => Account.Patch
  | contact => Contact.Patch

/-- The name of the type of the data objects. -/
def typeName : RecordKind → String
  | account => "Account"
  | contact => "Contact"

/-- The mapping between the data objects of a kind and their records. -/
def mapper : (k : RecordKind) → Mapper k.Data
  | account => Account.mapper
  | contact => Contact.mapper

instance (k : RecordKind) : DataObject k.Data k.Patch :=
  match k with
  | account => inferInstanceAs (DataObject Account Account.Patch)
  | contact => inferInstanceAs (DataObject Contact Contact.Patch)

end RecordKind

end RecordGateway
