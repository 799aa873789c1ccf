import RecordGateway.Json.Basic

/-!
# Merging JSON

One value laid over another: the members of objects are merged by name, and everything else is
replaced.
-/

namespace RecordGateway.Json

/-- The members with the content of one name changed, which is put at the end if it is missing. -/
def setMember (name : String) (item : Json) : List (String × Json) → List (String × Json)
  | [] => [(name, item)]
  | m :: rest => if m.1 = name then (name, item) :: rest else m :: setMember name item rest

/-- The object with the given members; of several with one name the last counts. -/
def ofMembers (members : List (String × Json)) : Json :=
  object (members.foldl (fun sofar m => setMember m.1 m.2 sofar) [])

mutual

/-- The value `upper` laid over `lower`. -/
def merge (lower : Json) : Json → Json
  | object upper => match lower with
    | object members => object (mergeMembers members upper)
    | _ => object upper
  | upper => upper

/-- Members laid over other members one after the other. -/
def mergeMembers (lower : List (String × Json)) : List (String × Json) → List (String × Json)
  | [] => lower
  | (name, item) :: rest =>
    let merged := match lower.lookup name with
      | some content => merge content item
      | none => item
    mergeMembers (setMember name merged lower) rest

end

/-- The value at the end of a path of names. -/
def nest (path : List String) (item : Json) : Json :=
  path.foldr (fun name inner => object [(name, inner)]) item

end RecordGateway.Json
