import RecordGateway.Attributes
import RecordGateway.Criteria
import RecordGateway.Pattern

/-!
# Matching

Which records satisfy a group of conditions.  A condition on an attribute that is missing or null
holds only if it asks for just that, and a condition whose operands do not compare with the
attribute does not hold, nor does its opposite.
-/

namespace RecordGateway

/-- The value of an attribute, unless it is missing or null. -/
def Attributes.present? (as : Attributes) (name : String) : Option Value :=
  (as.get? name).filter fun v => !v.isNull

/-- Whether a value is in a list: unknown if it equals none of the list and does not compare with
some of them. -/
def Value.inList? (actual : Value) : List Value → Option Bool
  | [] => some false
  | v :: rest => match actual.compare? v with
    | some .eq => some true
    | some _ => inList? actual rest
    | none => if inList? actual rest = some true then some true else none

/-- Whether a value and the first operand are texts that satisfy a test. -/
def Value.textHolds (test : String → String → Bool) (actual : Value) (operands : List Value) :
    Bool :=
  match actual, operands with
  | .string s, .string p :: _ => test s p
  | _, _ => false

/-- Whether a text begins with another one. -/
def beginsWith (s p : String) : Bool :=
  p.toList.isPrefixOf s.toList

/-- Whether a text ends with another one. -/
def endsWith (s p : String) : Bool :=
  p.toList.isSuffixOf s.toList

/-- Whether a value compares with the first operand in a way that satisfies a comparison. -/
def Value.orderHolds (comparison : Comparison) (actual : Value) (operands : List Value) : Bool :=
  (operands.head?.bind actual.compare?).any comparison.holds

/-- Whether a value that is not null satisfies an operator with its operands. -/
def ConditionOperator.holds (actual : Value) (operands : List Value) : ConditionOperator → Bool
  | isNull => false
  | isNotNull => true
  | equal => actual.orderHolds .eq operands
  | notEqual => actual.orderHolds .ne operands
  | lessThan => actual.orderHolds .lt operands
  | lessEqual => actual.orderHolds .le operands
  | greaterThan => actual.orderHolds .gt operands
  | greaterEqual => actual.orderHolds .ge operands
  | like => actual.textHolds Pattern.matchesText operands
  | notLike => actual.textHolds (fun s p => !Pattern.matchesText s p) operands
  | beginsWith => actual.textHolds RecordGateway.beginsWith operands
  | doesNotBeginWith => actual.textHolds (fun s p => !RecordGateway.beginsWith s p) operands
  | endsWith => actual.textHolds RecordGateway.endsWith operands
  | doesNotEndWith => actual.textHolds (fun s p => !RecordGateway.endsWith s p) operands
  | isIn => actual.inList? operands == some true
  | isNotIn => actual.inList? operands == some false

/-- Whether a condition holds for some attributes. -/
def Condition.holds (as : Attributes) (c : Condition) : Bool :=
  match as.present? c.attributeName with
  | some actual => c.operator.holds actual c.operands
  | none => c.operator == .isNull

namespace Criteria

mutual

/-- Whether a group holds for some attributes; a group without members always does. -/
def holds (as : Attributes) : Criteria → Bool
  | ⟨connective, conditions, nested⟩ =>
    (conditions.isEmpty && nested.isEmpty) || match connective with
      | .and => conditions.all (·.holds as) && holdsAll as nested
      | .or => conditions.any (·.holds as) || holdsAny as nested

/-- Whether all of some groups hold. -/
def holdsAll (as : Attributes) : List Criteria → Bool
  | [] => true
  | c :: rest => holds as c && holdsAll as rest

/-- Whether any of some groups holds. -/
def holdsAny (as : Attributes) : List Criteria → Bool
  | [] => false
  | c :: rest => holds as c || holdsAny as rest

end

end Criteria

end RecordGateway
