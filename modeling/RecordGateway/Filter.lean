import RecordGateway.Value

/-!
# Filters

A filter over the fields of a data object: comparisons with literals, tests on text, membership
in a list, and their combination by `and`, `or` and `not`.  Fields carry the names that callers
use; which attribute of a record a field stands for is decided later.
-/

namespace RecordGateway

/-- How the members of a group are joined. -/
inductive Connective where
  | and
  | or
deriving DecidableEq

namespace Connective

instance : Inhabited Connective := ⟨and⟩

/-- The connective that De Morgan's laws exchange this one for. -/
def flip : Connective → Connective
  | and => or
  | or => and

/-- The connective as a word. -/
def text : Connective → String
  | and => "and"
  | or => "or"

/-- The connective with a name. -/
def ofText? : String → Option Connective
  | "and" => some .and
  | "or" => some .or
  | _ => none

/-- A connective that is flipped twice is itself again. -/
@[simp] theorem flip_flip (c : Connective) : c.flip.flip = c := by
  cases c <;> rfl

end Connective

/-- A comparison of a field with a literal. -/
inductive Comparison where
  | eq
  | ne
  | lt
  | le
  | gt
  | ge
deriving DecidableEq

namespace Comparison

/-- The comparison that holds when the operands change sides. -/
def mirrored : Comparison → Comparison
  | eq => eq
  | ne => ne
  | lt => gt
  | le => ge
  | gt => lt
  | ge => le

/-- Whether the comparison asks for an order rather than for equality. -/
def isOrdering : Comparison → Bool
  | eq | ne => false
  | lt | le | gt | ge => true

/-- Whether operands in the given order satisfy the comparison. -/
def holds : Comparison → Ordering → Bool
  | eq, o => o == .eq
  | ne, o => o != .eq
  | lt, o => o == .lt
  | le, o => o != .gt
  | gt, o => o == .gt
  | ge, o => o != .lt

/-- The comparison as a word. -/
def text : Comparison → String
  | eq => "eq"
  | ne => "ne"
  | lt => "lt"
  | le => "le"
  | gt => "gt"
  | ge => "ge"

/-- The comparison with a name. -/
def ofText? : String → Option Comparison
  | "eq" => some .eq
  | "ne" => some .ne
  | "lt" => some .lt
  | "le" => some .le
  | "gt" => some .gt
  | "ge" => some .ge
  | _ => none

/-- A comparison that is mirrored twice is itself again. -/
@[simp] theorem mirrored_mirrored (c : Comparison) : c.mirrored.mirrored = c := by
  cases c <;> rfl

end Comparison

/-- A test of a field's text against an operand. -/
inductive TextTest where
  | contains
  | startsWith
  | endsWith
deriving DecidableEq

/-- The test as a word. -/
def TextTest.text : TextTest → String
  | contains => "contains"
  | startsWith => "startswith"
  | endsWith => "endswith"

/-- The test of text with a name. -/
def TextTest.ofText? : String → Option TextTest
  | "contains" => some .contains
  | "startswith" => some .startsWith
  | "endswith" => some .endsWith
  | _ => none

/-- A condition on the fields of a data object. -/
inductive Filter where
  /-- All or any of the children. -/
  | group (connective : Connective) (children : List Filter)
  /-- The opposite of a filter. -/
  | not (inner : Filter)
  /-- A comparison of a field with a literal. -/
  | compare (field : String) (comparison : Comparison) (literal : Value)
  /-- A test of a field's text. -/
  | textTest (test : TextTest) (field : String) (operand : String)
  /-- Membership of a field in a list of literals. -/
  | oneOf (field : String) (literals : List Value)

instance : Inhabited Filter := ⟨.group .and []⟩

end RecordGateway
