import RecordGateway.Document.Node
import RecordGateway.Document.Scalar
import RecordGateway.Json.Merge

/-!
# Reading documents

The value of a document is the value of its root, which has to be a mapping; a document without
anything in it is an empty mapping.  References are followed, but only so often, and values are
nested only so deep.
-/

namespace RecordGateway.Document

mutual

/-- The number of marks and scalars that a node takes. -/
def Node.size : Node → Nat
  | .scalar .. | .reference _ => 1
  | .sequence _ items => 2 + sizeOfItems items
  | .mapping _ members => 2 + sizeOfMembers members

/-- The number of marks and scalars that some nodes take. -/
def sizeOfItems : List Node → Nat
  | [] => 0
  | item :: rest => item.size + sizeOfItems rest

/-- The number of marks and scalars that some members take. -/
def sizeOfMembers : List (Node × Node) → Nat
  | [] => 0
  | (name, value) :: rest => name.size + value.size + sizeOfMembers rest

end

/-- A step of reading a value, which counts how often references may still be followed. -/
abbrev Read := StateT Nat Option

/-- The node itself, or the node that a reference stands for. -/
def Tree.follow (t : Tree) : Node → Read Node
  | .reference number => do
    match ← get with
    | 0 => failure
    | n + 1 =>
      set n
      t.node? number
  | node => pure node

/-- The text of the name of a member, which has to be a scalar. -/
def Tree.name (t : Tree) (node : Node) : Read String := do
  match ← t.follow node with
  | .scalar _ _ text => return String.ofList text
  | _ => failure

/-- Whether a collection with a tag can be read: a tag must not start with an exclamation mark. -/
def isReadableTag (tag : Option (List Char)) : Bool :=
  !(tag.any fun tag => tag.head? == some '!')

/-- The value of a node that is nested no deeper than `depth`. -/
def Tree.value (t : Tree) : (depth : Nat) → Node → Read Json
  | depth, node => do
    match depth, ← t.follow node with
    | _, .scalar tag isPlain text => scalarValue? tag isPlain text
    | depth + 1, .sequence tag items =>
      if isReadableTag tag then return .array (← items.mapM (value t depth)) else failure
    | depth + 1, .mapping tag members =>
      if isReadableTag tag then
        return .ofMembers (← members.mapM fun m => do return (← t.name m.1, ← value t depth m.2))
      else failure
    | _, _ => failure

/-- The greatest depth to which values are nested. -/
def maxDepth : Nat := 128

/-- How often references may be followed for each mark and scalar of a document. -/
def maxRepetitions : Nat := 100

/-- The members of the root. -/
def Tree.members (t : Tree) : Read (List (String × Json)) :=
  match t.root with
  | .mapping _ members =>
    members.mapM fun m => do return (← t.name m.1, ← t.value (maxDepth - 1) m.2)
  | .scalar _ true [] => return []
  | _ => failure

/-- The value of a text, which is a mapping. -/
def ofText? (text : String) : Option Json := do
  let t ← Tree.ofTokens? (← tokens? text.toList)
  let (members, _) ← t.members.run (maxRepetitions * t.root.size)
  return .ofMembers members

end RecordGateway.Document
