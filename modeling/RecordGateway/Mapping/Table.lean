import RecordGateway.Mapping.Basic

/-!
# Table resolvers

A resolver given by a table of fields and, for some attributes, a rule for their literals.
-/

namespace RecordGateway

/-- How the literals of an attribute are written in the store. -/
inductive LiteralRule where
  /-- Only integers are accepted. -/
  | integer
  /-- Strings lose their upper-case ASCII letters. -/
  | lowerCase
  /-- Strings have to be identifiers and become identifiers. -/
  | identifier
  /-- Every literal becomes its text. -/
  | text
  /-- Every literal is refused because a field is missing. -/
  | missing
  /-- Every literal is refused because the attribute belongs to another entity. -/
  | foreign (entity : String)
deriving DecidableEq

/-- The literal of an attribute under a rule. -/
def LiteralRule.apply (column : String) : LiteralRule → Value → Except MappingError Value
  | integer, .int i => .ok (.int i)
  | integer, _ => .error (.invalidValue column "expected an integer")
  | lowerCase, .string s => .ok (.string (s.map Char.toLower))
  | lowerCase, v => .ok v
  | identifier, .string s => match Uuid.ofText? s with
    | some u => .ok (.uuid u)
    | none => .error (.invalidValue column "expected a uuid")
  | identifier, v => .ok v
  | text, v => .ok (.string v.display)
  | missing, _ => .error (.missingField column)
  | foreign entity, _ => .error (.wrongEntity entity column)

/-- The resolver of a table of fields and of rules for some attributes. -/
def Resolver.ofTable (fields : List (String × String)) (rules : List (String × LiteralRule)) :
    Resolver where
  attributeOf? field := fields.lookup field
  toStored name value := match rules.lookup name with
    | some rule => rule.apply name value
    | none => .ok value

end RecordGateway
