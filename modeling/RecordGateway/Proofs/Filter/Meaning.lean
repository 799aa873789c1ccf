import Mathlib.Data.List.Infix
import RecordGateway.Mapping.Basic
import RecordGateway.Proofs.Truth
import RecordGateway.Store.Matching

/-!
# The meaning of filters

The three-valued outcome of a filter on the attributes of a record, given by recursion on the
filter and without any criteria.  A resolver says which attribute stands behind a field and how
a literal is written there.

A comparison with null is two-valued: a missing attribute counts as null, and the literal is not
converted.  Every other leaf is unknown when the attribute is missing or null, or when it cannot
be compared with the converted literal.  A field without an attribute and a literal that cannot
be converted leave the leaf unknown as well; a request that compiles has neither.
-/

namespace RecordGateway

/-! ### Leaves -/

/-- Whether an attribute counts as null. -/
def isAbsent : Option Value → Bool
  | none | some .null => true
  | some _ => false

/-- The outcome of a comparison of an attribute with null, which only equality has. -/
def nullOutcome (stored : Option Value) : Comparison → Truth
  | .eq => .ofBool (isAbsent stored)
  | .ne => .ofBool (!isAbsent stored)
  | _ => .unknown

/-- The outcome of a comparison of an attribute with a value. -/
def orderOutcome (comparison : Comparison) (stored : Option Value) (value : Value) : Truth :=
  match stored with
  | none | some .null => .unknown
  | some actual => match actual.compare? value with
    | some order => .ofBool (comparison.holds order)
    | none => .unknown

/-- What a test of text asks for: the operand occurs in the text, or begins or ends it. -/
def TextTest.holds (text operand : String) : TextTest → Bool
  | contains => decide (operand.toList <:+: text.toList)
  | startsWith => decide (operand.toList <+: text.toList)
  | endsWith => decide (operand.toList <:+ text.toList)

/-- The outcome of a test of an attribute's text against a converted operand. -/
def textOutcome (test : TextTest) (stored : Option Value) (operand : Value) : Truth :=
  match stored, operand with
  | some (.string text), .string operand => .ofBool (test.holds text operand)
  | _, _ => .unknown

/-- The outcome that `outcome` gives to a converted literal; unknown if there is none. -/
def convertedOutcome (r : Resolver) (name : String) (outcome : Value → Truth) (literal : Value) :
    Truth :=
  match r.toStored name literal with
  | .ok value => outcome value
  | .error _ => .unknown

/-- The outcome that `outcome` gives to the attribute behind a field; unknown if there is none. -/
def fieldOutcome (r : Resolver) (field : String) (outcome : String → Truth) : Truth :=
  match r.attributeOf? field with
  | some name => outcome name
  | none => .unknown

/-! ### Trees -/

namespace Filter

mutual

/-- The outcome of a filter on some attributes. -/
def outcome (r : Resolver) (as : Attributes) : Filter → Truth
  | group connective children => .join connective (outcomes r as children)
  | not inner => (outcome r as inner).not
  | compare field comparison literal => fieldOutcome r field fun name =>
    if literal.isNull then nullOutcome (as.get? name) comparison
    else convertedOutcome r name (orderOutcome comparison (as.get? name)) literal
  | textTest test field operand => fieldOutcome r field fun name =>
    convertedOutcome r name (textOutcome test (as.get? name)) (.string operand)
  | oneOf field literals => fieldOutcome r field fun name =>
    .any (literals.map (convertedOutcome r name (orderOutcome .eq (as.get? name))))

/-- The outcomes of some filters in their order. -/
def outcomes (r : Resolver) (as : Attributes) : List Filter → List Truth
  | [] => []
  | f :: rest => outcome r as f :: outcomes r as rest

end

/-- The outcomes of some filters are those of the filters one by one. -/
lemma outcomes_eq_map (r : Resolver) (as : Attributes) (fs : List Filter) :
    outcomes r as fs = fs.map (outcome r as) := by
  induction fs with
  | nil => rfl
  | cons f fs ih => rw [outcomes, ih, List.map_cons]

end Filter

end RecordGateway
