import RecordGateway.Compilation.Error
import RecordGateway.Compilation.Paging
import RecordGateway.Mapping.Basic
import RecordGateway.NativeQuery
import RecordGateway.Pattern

/-!
# Compilation

A query request becomes a native query when every field it names has an attribute and every part
of it can be said in the store's terms.  Negation is pushed down to the conditions: a negated
group becomes the group of its negated members under the other connective, and a negated leaf
takes the opposite operator.  The defects of a request are reported in a fixed order: the window,
the filter from left to right with a group before its members, the fields to return, the sort
keys.
-/

namespace RecordGateway

/-- A compiled filter: a condition, or a group. -/
inductive CriteriaNode where
  | condition (condition : Condition)
  | group (criteria : Criteria)

namespace CriteriaNode

/-- The condition of a node that is one. -/
def condition? : CriteriaNode → Option Condition
  | condition c => some c
  | group _ => none

/-- The group of a node that is one. -/
def group? : CriteriaNode → Option Criteria
  | condition _ => none
  | group g => some g

/-- The node as criteria: a single condition becomes a group of its own. -/
def toCriteria : CriteriaNode → Criteria
  | condition c => ⟨.and, [c], []⟩
  | group g => g

end CriteriaNode

/-- The group of some nodes: conditions and nested groups, each in the order of the nodes. -/
def Criteria.ofNodes (connective : Connective) (nodes : List CriteriaNode) : Criteria where
  connective
  conditions := nodes.filterMap CriteriaNode.condition?
  nested := nodes.filterMap CriteriaNode.group?

namespace Resolver

/-- The attribute of a field that a clause names. -/
def resolve (r : Resolver) (clause : Clause) (field : String) : Except CompilationError String :=
  match r.attributeOf? field with
  | some name => .ok name
  | none => .error (.unmappedField clause field)

/-- A literal as the attribute behind a field holds it. -/
def convert (r : Resolver) (field name : String) (literal : Value) :
    Except CompilationError Value :=
  match r.toStored name literal with
  | .ok value => .ok value
  | .error e => .error (.invalidLiteral field e.message)

end Resolver

/-- The operator of a comparison with a value. -/
def Comparison.operator : Comparison → ConditionOperator
  | eq => .equal
  | ne => .notEqual
  | lt => .lessThan
  | le => .lessEqual
  | gt => .greaterThan
  | ge => .greaterEqual

/-- The operator of a comparison with null, which only equality has. -/
def Comparison.nullOperator? : Comparison → Option ConditionOperator
  | eq => some .isNull
  | ne => some .isNotNull
  | _ => none

/-- The operator and the operand of a test of text. -/
def TextTest.condition (test : TextTest) (operand : String) : ConditionOperator × String :=
  match test with
  | contains => (.like, String.ofList ('%' :: Pattern.escape operand.toList ++ ['%']))
  | startsWith => (.beginsWith, operand)
  | endsWith => (.endsWith, operand)

/-- The condition of a comparison. -/
def compareCondition (r : Resolver) (negate : Bool) (field : String) (comparison : Comparison)
    (literal : Value) : Except CompilationError Condition := do
  let name ← r.resolve .filter field
  if literal.isNull then
    match comparison.nullOperator? with
    | some operator => .ok ⟨name, operator.negatedIf negate, []⟩
    | none => .error (.nullOrdering field comparison)
  else
    let value ← r.convert field name literal
    .ok ⟨name, comparison.operator.negatedIf negate, [value]⟩

/-- The condition of a test of text; the operand has to stay a string in the store. -/
def textCondition (r : Resolver) (negate : Bool) (test : TextTest) (field operand : String) :
    Except CompilationError Condition := do
  let name ← r.resolve .filter field
  match ← r.convert field name (.string operand) with
  | .string stored =>
    let (operator, operand) := test.condition stored
    .ok ⟨name, operator.negatedIf negate, [.string operand]⟩
  | _ => .error (.invalidLiteral field s!"{test.text}() needs a string operand")

/-- The condition of a membership. -/
def listCondition (r : Resolver) (negate : Bool) (field : String) (literals : List Value) :
    Except CompilationError Condition := do
  let name ← r.resolve .filter field
  if literals.isEmpty then .error (.emptyInList field)
  else if literals.any Value.isNull then .error (.nullInList field)
  else
    let values ← literals.mapM (r.convert field name)
    .ok ⟨name, ConditionOperator.isIn.negatedIf negate, values⟩

namespace Filter

mutual

/-- The compiled form of a filter, or of its opposite if `negate` is set. -/
def toNode (r : Resolver) (negate : Bool) : Filter → Except CompilationError CriteriaNode
  | group connective children => do
    if children.isEmpty then .error (.emptyGroup connective)
    else
      let nodes ← toNodes r negate children
      .ok (.group (.ofNodes (if negate then connective.flip else connective) nodes))
  | not inner => toNode r (!negate) inner
  | compare field comparison literal => do
    .ok (.condition (← compareCondition r negate field comparison literal))
  | textTest test field operand => do
    .ok (.condition (← textCondition r negate test field operand))
  | oneOf field literals => do
    .ok (.condition (← listCondition r negate field literals))

/-- The compiled forms of some filters, up to the first one that fails. -/
def toNodes (r : Resolver) (negate : Bool) :
    List Filter → Except CompilationError (List CriteriaNode)
  | [] => .ok []
  | f :: rest => do
    let node ← toNode r negate f
    let nodes ← toNodes r negate rest
    .ok (node :: nodes)

end

/-- The criteria of a filter. -/
def toCriteria (r : Resolver) (f : Filter) : Except CompilationError Criteria :=
  (f.toNode r false).map CriteriaNode.toCriteria

end Filter

/-- The columns of a list of fields: their attributes in order of first occurrence. -/
def columnsOf (r : Resolver) (fields : List String) : Except CompilationError ColumnSet :=
  if fields.isEmpty then .error .emptySelect
  else do
    let names ← fields.mapM (r.resolve .select)
    .ok (.only names.eraseDups)

/-- The sort order of a sort key. -/
def sortOrderOf (r : Resolver) (key : SortKey) : Except CompilationError SortOrder := do
  .ok ⟨← r.resolve .orderBy key.field, key.direction⟩

/-- The native query of a request for records of the kind `entityName`. -/
def QueryRequest.compile (q : QueryRequest) (r : Resolver) (maxPageSize : UInt32)
    (entityName : String) : Except CompilationError NativeQuery := do
  let page ← pageOf maxPageSize q.skip q.top
  let criteria ← match q.filter with
    | some f => f.toCriteria r
    | none => .ok .empty
  let columns ← match q.select with
    | some fields => columnsOf r fields
    | none => .ok .all
  let orders ← q.orderBy.mapM (sortOrderOf r)
  .ok { entityName, criteria, columns, orders, page }

end RecordGateway
