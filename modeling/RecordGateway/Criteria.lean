import RecordGateway.Filter

/-!
# Criteria

The conditions that a store understands: groups of conditions and of further groups.  A store
knows no negation; instead every operator has its opposite.
-/

namespace RecordGateway

/-- The operators of conditions. -/
inductive ConditionOperator where
  | equal
  | notEqual
  | lessThan
  | lessEqual
  | greaterThan
  | greaterEqual
  | like
  | notLike
  | beginsWith
  | doesNotBeginWith
  | endsWith
  | doesNotEndWith
  | isNull
  | isNotNull
  | isIn
  | isNotIn
deriving DecidableEq

namespace ConditionOperator

/-- The opposite operator. -/
def negated : ConditionOperator → ConditionOperator
  | equal => notEqual
  | notEqual => equal
  | lessThan => greaterEqual
  | lessEqual => greaterThan
  | greaterThan => lessEqual
  | greaterEqual => lessThan
  | like => notLike
  | notLike => like
  | beginsWith => doesNotBeginWith
  | doesNotBeginWith => beginsWith
  | endsWith => doesNotEndWith
  | doesNotEndWith => endsWith
  | isNull => isNotNull
  | isNotNull => isNull
  | isIn => isNotIn
  | isNotIn => isIn

/-- The number of operands; `none` stands for one or more. -/
def arity : ConditionOperator → Option Nat
  | isNull | isNotNull => some 0
  | isIn | isNotIn => none
  | _ => some 1

/-- The operator, or its opposite under a negation. -/
def negatedIf (op : ConditionOperator) (negate : Bool) : ConditionOperator :=
  if negate then op.negated else op

/-- An operator that is negated twice is itself again. -/
@[simp] theorem negated_negated (op : ConditionOperator) : op.negated.negated = op := by
  cases op <;> rfl

end ConditionOperator

/-- A condition on one attribute. -/
structure Condition where
  attributeName : String
  operator : ConditionOperator
  operands : List Value
deriving DecidableEq

/-- A group of conditions and nested groups. -/
structure Criteria where
  connective : Connective
  conditions : List Condition
  nested : List Criteria

namespace Criteria

/-- The group without members, which every record satisfies. -/
def empty : Criteria := ⟨.and, [], []⟩

instance : Inhabited Criteria := ⟨empty⟩

/-- Whether the group has no members. -/
def isEmpty (c : Criteria) : Bool :=
  c.conditions.isEmpty && c.nested.isEmpty

mutual

/-- The number of levels of groups. -/
def depth : Criteria → Nat
  | ⟨_, _, nested⟩ => 1 + depthAll nested

/-- The greatest depth among some groups, zero if there are none. -/
def depthAll : List Criteria → Nat
  | [] => 0
  | c :: rest => max (depth c) (depthAll rest)

end

end Criteria

end RecordGateway
