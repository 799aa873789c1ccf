import RecordGateway.Json.Basic
import RecordGateway.OData.Lowering
import RecordGateway.QueryRequest
import RecordGateway.Value.Json

/-!
# Query options

The five query options as they arrive with a request, and the query request that they make up.
A blank filter counts as none; the fields to return are listed with commas, and blank entries
among them are dropped; a sort key is a field name and maybe a direction.
-/

namespace RecordGateway.OData

/-- The raw query options. -/
structure Options where
  filter : Option String
  orderBy : Option String
  select : Option String
  top : Option Int64
  skip : Option Int64
deriving DecidableEq

/-- A word in lower case, as far as it has ASCII letters. -/
def lowerWord (word : List Char) : List Char :=
  word.map Char.toLower

/-- The sort key of a text between commas. -/
def sortKeyOf (item : List Char) : Except OptionError SortKey :=
  match Text.words item with
  | [] => .error (.orderBy "empty sort key")
  | [field] => .ok ⟨String.ofList field, .ascending⟩
  | field :: word :: more =>
    let direction? : Option Direction :=
      if lowerWord word = "asc".toList then some .ascending
      else if lowerWord word = "desc".toList then some .descending
      else none
    match direction? with
    | none => .error (.orderBy
        ("unknown direction '" ++ String.ofList word ++ "' for '" ++ String.ofList field ++ "'"))
    | some direction =>
      if more.isEmpty then .ok ⟨String.ofList field, direction⟩
      else .error (.orderBy ("malformed sort key '" ++ String.ofList (Text.trim item) ++ "'"))

/-- The sort keys of the order option. -/
def sortKeysOf (text : List Char) : Except OptionError (List SortKey) :=
  (Text.split (· == ',') text).mapM sortKeyOf

/-- The fields of the select option. -/
def fieldsOf (text : List Char) : List String :=
  (((Text.split (· == ',') text).map Text.trim).filter (· ≠ [])).map String.ofList

/-- The query request that the options make up. -/
def Options.toRequest (o : Options) : Except OptionError QueryRequest := do
  let filter ← match o.filter.map Text.trimmed with
    | none | some "" => .ok none
    | some text => (filterOfText text).map some
  let orderBy ← match o.orderBy with
    | none => .ok []
    | some text => sortKeysOf text.toList
  return {
    filter
    orderBy
    select := o.select.map fun text => fieldsOf text.toList
    skip := o.skip
    top := o.top }

/-! ### Options as JSON -/

/-- The options with the given contents. -/
def Options.ofMembers? (filter orderBy select top skip : Option Json) : Option Options := do
  return {
    filter := ← Json.optional? Json.asString? filter
    orderBy := ← Json.optional? Json.asString? orderBy
    select := ← Json.optional? Json.asString? select
    top := ← Json.optional? Value.int64OfJson? top
    skip := ← Json.optional? Value.int64OfJson? skip }

/-- Reads options from an object, or from an array of all five in the order of the structure. -/
def Options.ofJson? : Json → Option Options
  | .array [filter, orderBy, select, top, skip] =>
    ofMembers? (some filter) (some orderBy) (some select) (some top) (some skip)
  | .object members =>
    let member (name : String) := (Json.object members).member? name
    ofMembers? (member "$filter") (member "$orderby") (member "$select") (member "$top")
      (member "$skip")
  | _ => none

end RecordGateway.OData
