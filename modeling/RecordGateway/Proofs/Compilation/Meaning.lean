import RecordGateway.Mapping.Table
import RecordGateway.Proofs.Compilation.Success
import RecordGateway.Proofs.Filter.Meaning
import RecordGateway.Proofs.Pattern.Matching

/-!
# Compiled criteria mean what the filter means

Criteria are two-valued, and a filter is three-valued.  Under a negation flag, criteria ask a
filter for one of its definite outcomes: without negation for truth, with negation for falsehood.
`Filter.holds_toNode` states this for every node, by induction on the filter; the flag changes
under `not`, and `Truth.join_is` carries it through a group.  At a leaf it says that an operator
and its opposite ask for the two definite outcomes of one test, so that neither holds where the
test is unknown.

The main theorem is `QueryRequest.holds_compile_iff`: the criteria of a compiled request hold for
a record exactly when its filter is true there, and those of the negated filter, which compiles
as well, exactly when its filter is false there.
-/

namespace RecordGateway

/-! ### Attributes that are there and attributes that are not -/

/-- An attribute that counts as null is not present. -/
lemma Attributes.present?_of_isAbsent {as : Attributes} {name : String}
    (h : isAbsent (as.get? name) = true) : as.present? name = none := by
  unfold present?
  rcases hget : as.get? name with - | v
  · rfl
  · rw [hget] at h
    cases v with
    | null => rfl
    | _ => cases h

/-- A stored value other than null is present. -/
lemma Attributes.present?_of_get? {as : Attributes} {name : String} {v : Value}
    (hget : as.get? name = some v) (hv : v.isNull = false) : as.present? name = some v := by
  simp [present?, hget, hv]

/-- An attribute counts as null or holds a value other than null. -/
lemma isAbsent_or_stored (stored : Option Value) :
    isAbsent stored = true ∨ ∃ v, stored = some v ∧ v.isNull = false := by
  rcases stored with - | v
  · exact .inl rfl
  · cases v with
    | null => exact .inl rfl
    | _ => exact .inr ⟨_, rfl, rfl⟩

/-- A condition on an attribute that counts as null asks for just that. -/
lemma Condition.holds_of_isAbsent {as : Attributes} {c : Condition}
    (h : isAbsent (as.get? c.attributeName) = true) : c.holds as = (c.operator == .isNull) := by
  unfold holds
  rw [Attributes.present?_of_isAbsent h]

/-- A condition on a stored value asks its operator. -/
lemma Condition.holds_of_get? {as : Attributes} {c : Condition} {v : Value}
    (hget : as.get? c.attributeName = some v) (hv : v.isNull = false) :
    c.holds as = c.operator.holds v c.operands := by
  unfold holds
  rw [Attributes.present?_of_get? hget hv]

/-- No comparison with an absent attribute has an outcome. -/
lemma orderOutcome_of_isAbsent {comparison : Comparison} {stored : Option Value} {value : Value}
    (h : isAbsent stored = true) : orderOutcome comparison stored value = .unknown := by
  rcases stored with - | v
  · rfl
  · cases v with
    | null => rfl
    | _ => cases h

/-- No test of an absent attribute's text has an outcome. -/
lemma textOutcome_of_isAbsent {test : TextTest} {stored : Option Value} {operand : Value}
    (h : isAbsent stored = true) : textOutcome test stored operand = .unknown := by
  rcases stored with - | v
  · rfl
  · cases v with
    | null => rfl
    | _ => cases h

/-- A stored value compares as the order of the two values says. -/
lemma orderOutcome_stored {comparison : Comparison} {actual value : Value}
    (h : actual.isNull = false) : orderOutcome comparison (some actual) value =
      .ofOption ((actual.compare? value).map comparison.holds) := by
  unfold orderOutcome
  cases actual with
  | null => cases h
  | _ =>
    dsimp only
    cases Value.compare? _ value <;> rfl

/-- A literal that converts has the outcome of the converted value. -/
lemma convertedOutcome_of_ok {r : Resolver} {name : String} {outcome : Value → Truth}
    {literal value : Value} (h : r.toStored name literal = .ok value) :
    convertedOutcome r name outcome literal = outcome value := by
  rw [convertedOutcome, h]

/-- Literals that convert have the outcomes of the converted values. -/
lemma map_convertedOutcome {r : Resolver} {name : String} (outcome : Value → Truth)
    {literals values : List Value}
    (h : List.Forall₂ (fun literal value => r.toStored name literal = .ok value) literals values) :
    literals.map (convertedOutcome r name outcome) = values.map outcome := by
  induction h with
  | nil => rfl
  | cons hvalue _ ih => rw [List.map_cons, List.map_cons, ih, convertedOutcome_of_ok hvalue]

/-! ### Operators and their opposites -/

section Operators

variable (negate : Bool) (actual : Value)

/-- The operator of a comparison and its opposite ask for the two definite outcomes. -/
lemma holds_comparison_operator (comparison : Comparison) (value : Value) :
    (comparison.operator.negatedIf negate).holds actual [value] =
      (Truth.ofOption ((actual.compare? value).map comparison.holds)).is (!negate) := by
  cases horder : actual.compare? value with
  | none =>
    cases negate <;> cases comparison <;>
      simp [Comparison.operator, ConditionOperator.negatedIf, ConditionOperator.negated,
        ConditionOperator.holds, Value.orderHolds, horder]
  | some order =>
    cases negate <;> cases comparison <;>
      simp [Comparison.operator, ConditionOperator.negatedIf, ConditionOperator.negated,
        ConditionOperator.holds, Value.orderHolds, horder] <;>
      cases order <;> rfl

/-- The operator that a test of text compiles to makes that test. -/
lemma textHolds_condition (test : TextTest) (stored : String) :
    ((test.condition stored).1.negatedIf negate).holds actual
        [.string (test.condition stored).2] =
      (textOutcome test (some actual) (.string stored)).is (!negate) := by
  cases actual with
  | string text =>
    have hlike : Pattern.matchesText text (TextTest.contains.condition stored).2 =
        TextTest.contains.holds text stored := by
      rw [Bool.eq_iff_iff]
      exact (Pattern.matchesText_enclosed_iff text stored).trans decide_eq_true_iff.symm
    have hbegins : beginsWith text stored = TextTest.startsWith.holds text stored := by
      rw [Bool.eq_iff_iff]
      exact List.isPrefixOf_iff_prefix.trans decide_eq_true_iff.symm
    have hends : endsWith text stored = TextTest.endsWith.holds text stored := by
      rw [Bool.eq_iff_iff]
      exact List.isSuffixOf_iff_suffix.trans decide_eq_true_iff.symm
    rw [textOutcome, Truth.ofBool_is]
    cases test with
    | contains =>
      rw [← hlike]
      cases negate <;> simp [TextTest.condition, ConditionOperator.negatedIf,
        ConditionOperator.negated, ConditionOperator.holds, Value.textHolds]
    | startsWith =>
      rw [← hbegins]
      cases negate <;> simp [TextTest.condition, ConditionOperator.negatedIf,
        ConditionOperator.negated, ConditionOperator.holds, Value.textHolds]
    | endsWith =>
      rw [← hends]
      cases negate <;> simp [TextTest.condition, ConditionOperator.negatedIf,
        ConditionOperator.negated, ConditionOperator.holds, Value.textHolds]
  | _ => cases negate <;> cases test <;> rfl

/-- Membership is the disjunction of the equalities with the members. -/
lemma ofOption_inList? {actual : Value} (h : actual.isNull = false) (values : List Value) :
    Truth.ofOption (actual.inList? values) =
      .any (values.map (orderOutcome .eq (some actual))) := by
  induction values with
  | nil => rfl
  | cons v values ih =>
    have hcons : Truth.any ((v :: values).map (orderOutcome .eq (some actual))) =
        (orderOutcome .eq (some actual) v).or
          (.any (values.map (orderOutcome .eq (some actual)))) := rfl
    rw [hcons, ← ih, orderOutcome_stored h, Value.inList?]
    cases actual.compare? v with
    | none => rcases actual.inList? values with - | b <;> [rfl; cases b <;> rfl]
    | some order => cases order <;> rfl

/-- The operators of membership ask for its two definite outcomes. -/
lemma holds_isIn {actual : Value} (h : actual.isNull = false) (values : List Value) :
    (ConditionOperator.isIn.negatedIf negate).holds actual values =
      (Truth.any (values.map (orderOutcome .eq (some actual)))).is (!negate) := by
  rw [← ofOption_inList? h, Truth.ofOption_is]
  cases negate <;> rfl

end Operators

/-! ### Leaves -/

section Leaves

variable {r : Resolver} {negate : Bool} {field : String} {condition : Condition}
  (as : Attributes)

/-- The condition of a comparison asks for the comparison's definite outcome. -/
theorem holds_compareCondition {comparison : Comparison} {literal : Value}
    (h : compareCondition r negate field comparison literal = .ok condition) :
    condition.holds as =
      (Filter.outcome r as (.compare field comparison literal)).is (!negate) := by
  obtain ⟨name, hname, hliteral⟩ := compareCondition_eq_ok.mp h
  simp only [Filter.outcome, fieldOutcome, hname]
  rcases hliteral with ⟨hnull, operator, hoperator, rfl⟩ | ⟨hnull, value, hvalue, rfl⟩
  · rw [if_pos hnull]
    -- only equality has an operator for null
    cases comparison with
    | eq | ne =>
      cases hoperator
      rcases isAbsent_or_stored (as.get? name) with habs | ⟨v, hget, hv⟩
      · rw [Condition.holds_of_isAbsent habs, nullOutcome, habs]
        cases negate <;> rfl
      · rw [Condition.holds_of_get? hget hv, nullOutcome, hget]
        cases v with
        | null => cases hv
        | _ => cases negate <;> rfl
    | _ => cases hoperator
  · rw [if_neg (by simp [hnull]), convertedOutcome_of_ok hvalue]
    rcases isAbsent_or_stored (as.get? name) with habs | ⟨v, hget, hv⟩
    · rw [Condition.holds_of_isAbsent habs, orderOutcome_of_isAbsent habs, Truth.unknown_is]
      cases negate <;> cases comparison <;> rfl
    · simp only [hget]
      rw [Condition.holds_of_get? hget hv, orderOutcome_stored hv, holds_comparison_operator]

/-- The condition of a test of text asks for the test's definite outcome. -/
theorem holds_textCondition {test : TextTest} {operand : String}
    (h : textCondition r negate test field operand = .ok condition) :
    condition.holds as = (Filter.outcome r as (.textTest test field operand)).is (!negate) := by
  obtain ⟨name, stored, hname, hstored, rfl⟩ := textCondition_eq_ok.mp h
  simp only [Filter.outcome, fieldOutcome, hname, convertedOutcome_of_ok hstored]
  rcases isAbsent_or_stored (as.get? name) with habs | ⟨v, hget, hv⟩
  · rw [Condition.holds_of_isAbsent habs, textOutcome_of_isAbsent habs, Truth.unknown_is]
    cases negate <;> cases test <;> rfl
  · rw [Condition.holds_of_get? hget hv, hget, textHolds_condition]

/-- The condition of a membership asks for the membership's definite outcome. -/
theorem holds_listCondition {literals : List Value}
    (h : listCondition r negate field literals = .ok condition) :
    condition.holds as = (Filter.outcome r as (.oneOf field literals)).is (!negate) := by
  obtain ⟨name, values, hname, hne, -, hvalues, rfl⟩ := listCondition_eq_ok.mp h
  simp only [Filter.outcome, fieldOutcome, hname, map_convertedOutcome _ hvalues]
  rcases isAbsent_or_stored (as.get? name) with habs | ⟨v, hget, hv⟩
  · have hunknown : ∀ t ∈ values.map (orderOutcome .eq (as.get? name)), t = .unknown := by
      intro t ht
      obtain ⟨value, -, rfl⟩ := List.mem_map.mp ht
      exact orderOutcome_of_isAbsent habs
    have hvne : values.map (orderOutcome .eq (as.get? name)) ≠ [] := by
      rintro hnil
      cases hvalues with
      | nil => exact hne rfl
      | cons _ _ => cases hnil
    rw [Condition.holds_of_isAbsent habs, Truth.any_eq_unknown hvne hunknown, Truth.unknown_is]
    cases negate <;> rfl
  · rw [Condition.holds_of_get? hget hv, hget, holds_isIn negate hv]

end Leaves

/-! ### Trees -/

/-- A single condition as criteria is that condition. -/
lemma CriteriaNode.holds_condition (as : Attributes) (c : Condition) :
    (condition c).toCriteria.holds as = c.holds as := by
  simp [toCriteria, Criteria.holds, Criteria.holdsAll]

namespace CriteriaNode

/-- A condition is one of the conditions among some nodes. -/
@[simp] lemma filterMap_condition?_condition (c : Condition) (nodes : List CriteriaNode) :
    (condition c :: nodes).filterMap condition? = c :: nodes.filterMap condition? := rfl

/-- A condition is none of the groups among some nodes. -/
@[simp] lemma filterMap_group?_condition (c : Condition) (nodes : List CriteriaNode) :
    (condition c :: nodes).filterMap group? = nodes.filterMap group? := rfl

/-- A group is none of the conditions among some nodes. -/
@[simp] lemma filterMap_condition?_group (g : Criteria) (nodes : List CriteriaNode) :
    (group g :: nodes).filterMap condition? = nodes.filterMap condition? := rfl

/-- A group is one of the groups among some nodes. -/
@[simp] lemma filterMap_group?_group (g : Criteria) (nodes : List CriteriaNode) :
    (group g :: nodes).filterMap group? = g :: nodes.filterMap group? := rfl

end CriteriaNode

namespace Criteria

/-- The conditions and the groups among some nodes all hold when all the nodes do. -/
lemma all_nodes (as : Attributes) (nodes : List CriteriaNode) :
    ((nodes.filterMap CriteriaNode.condition?).all (·.holds as) &&
        holdsAll as (nodes.filterMap CriteriaNode.group?)) =
      nodes.all fun node => node.toCriteria.holds as := by
  induction nodes with
  | nil => rfl
  | cons node nodes ih =>
    rw [List.all_cons, ← ih]
    cases node with
    | condition c =>
      rw [CriteriaNode.filterMap_condition?_condition, CriteriaNode.filterMap_group?_condition,
        List.all_cons, CriteriaNode.holds_condition, Bool.and_assoc]
    | group g =>
      rw [CriteriaNode.filterMap_condition?_group, CriteriaNode.filterMap_group?_group, holdsAll,
        Bool.and_left_comm]
      rfl

/-- One of the conditions and the groups among some nodes holds when one of the nodes does. -/
lemma any_nodes (as : Attributes) (nodes : List CriteriaNode) :
    ((nodes.filterMap CriteriaNode.condition?).any (·.holds as) ||
        holdsAny as (nodes.filterMap CriteriaNode.group?)) =
      nodes.any fun node => node.toCriteria.holds as := by
  induction nodes with
  | nil => rfl
  | cons node nodes ih =>
    rw [List.any_cons, ← ih]
    cases node with
    | condition c =>
      rw [CriteriaNode.filterMap_condition?_condition, CriteriaNode.filterMap_group?_condition,
        List.any_cons, CriteriaNode.holds_condition, Bool.or_assoc]
    | group g =>
      rw [CriteriaNode.filterMap_condition?_group, CriteriaNode.filterMap_group?_group, holdsAny,
        Bool.or_left_comm]
      rfl

/-- A group of nodes asks its nodes, whichever of them are conditions and which are groups. -/
theorem holds_ofNodes (as : Attributes) (connective : Connective) {nodes : List CriteriaNode}
    (hne : nodes ≠ []) :
    (ofNodes connective nodes).holds as =
      connective.combine (nodes.map fun node => node.toCriteria.holds as) := by
  have hmembers : ((nodes.filterMap CriteriaNode.condition?).isEmpty &&
      (nodes.filterMap CriteriaNode.group?).isEmpty) = false := by
    obtain ⟨node, rest, rfl⟩ := List.exists_cons_of_ne_nil hne
    cases node <;> simp [CriteriaNode.condition?, CriteriaNode.group?]
  simp only [ofNodes, holds, hmembers, Bool.false_or]
  cases connective with
  | and => simp only [all_nodes, Connective.combine, List.all_map, Function.id_comp]
  | or => simp only [any_nodes, Connective.combine, List.any_map, Function.id_comp]

end Criteria

namespace Filter

variable {r : Resolver}

mutual

/-- The node of a filter asks for the definite outcome that the negation leaves. -/
theorem holds_toNode (as : Attributes) {negate : Bool} {node : CriteriaNode} :
    ∀ f : Filter, toNode r negate f = .ok node →
      node.toCriteria.holds as = (outcome r as f).is (!negate)
  | .group connective children, h => by
    obtain ⟨hne, nodes, hnodes, rfl⟩ := toNode_group_eq_ok.mp h
    have hnodesne : nodes ≠ [] := by
      rintro rfl
      exact hne (List.forall₂_nil_right_iff.mp (toNodes_eq_ok.mp hnodes))
    rw [CriteriaNode.toCriteria, Criteria.holds_ofNodes as _ hnodesne,
      holds_toNodes as children hnodes, outcome, Truth.join_is]
    cases negate <;> rfl
  | .not inner, h => by
    rw [toNode] at h
    rw [holds_toNode as inner h, outcome, Truth.not_is]
  | .compare field comparison literal, h => by
    rw [toNode] at h
    obtain ⟨c, hc, hnode⟩ := bind_eq_ok.mp h
    cases hnode
    rw [CriteriaNode.holds_condition, holds_compareCondition as hc]
  | .textTest test field operand, h => by
    rw [toNode] at h
    obtain ⟨c, hc, hnode⟩ := bind_eq_ok.mp h
    cases hnode
    rw [CriteriaNode.holds_condition, holds_textCondition as hc]
  | .oneOf field literals, h => by
    rw [toNode] at h
    obtain ⟨c, hc, hnode⟩ := bind_eq_ok.mp h
    cases hnode
    rw [CriteriaNode.holds_condition, holds_listCondition as hc]

/-- The nodes of some filters ask for the definite outcomes of these. -/
theorem holds_toNodes (as : Attributes) {negate : Bool} {nodes : List CriteriaNode} :
    ∀ fs : List Filter, toNodes r negate fs = .ok nodes →
      nodes.map (fun node => node.toCriteria.holds as) =
        (outcomes r as fs).map (Truth.is (!negate))
  | [], h => by
    rw [List.forall₂_nil_left_iff.mp (toNodes_eq_ok.mp h)]
    rfl
  | f :: fs, h => by
    obtain ⟨node, rest, hnode, hrest, rfl⟩ := List.forall₂_cons_left_iff.mp (toNodes_eq_ok.mp h)
    rw [List.map_cons, outcomes, List.map_cons, holds_toNode as f hnode,
      holds_toNodes as fs (toNodes_eq_ok.mpr hrest)]

end

mutual

/-- A filter that compiles under one negation compiles under the other one as well. -/
lemma exists_toNode_not {negate : Bool} {node : CriteriaNode} :
    ∀ f : Filter, toNode r negate f = .ok node → ∃ opposite, toNode r (!negate) f = .ok opposite
  | .group connective children, h => by
    obtain ⟨hne, nodes, hnodes, -⟩ := toNode_group_eq_ok.mp h
    obtain ⟨opposites, hopposites⟩ := exists_toNodes_not children hnodes
    exact ⟨_, toNode_group_eq_ok.mpr ⟨hne, opposites, hopposites, rfl⟩⟩
  | .not inner, h => exists_toNode_not inner h
  | .compare field comparison literal, h => by
    obtain ⟨c, hc, -⟩ := bind_eq_ok.mp h
    obtain ⟨name, hname, hliteral⟩ := compareCondition_eq_ok.mp hc
    rcases hliteral with ⟨hnull, operator, hoperator, -⟩ | ⟨hnull, value, hvalue, -⟩
    · exact ⟨_, bind_eq_ok.mpr ⟨_, compareCondition_eq_ok.mpr
        ⟨name, hname, .inl ⟨hnull, operator, hoperator, rfl⟩⟩, rfl⟩⟩
    · exact ⟨_, bind_eq_ok.mpr ⟨_, compareCondition_eq_ok.mpr
        ⟨name, hname, .inr ⟨hnull, value, hvalue, rfl⟩⟩, rfl⟩⟩
  | .textTest test field operand, h => by
    obtain ⟨c, hc, -⟩ := bind_eq_ok.mp h
    obtain ⟨name, stored, hname, hstored, -⟩ := textCondition_eq_ok.mp hc
    exact ⟨_, bind_eq_ok.mpr
      ⟨_, textCondition_eq_ok.mpr ⟨name, stored, hname, hstored, rfl⟩, rfl⟩⟩
  | .oneOf field literals, h => by
    obtain ⟨c, hc, -⟩ := bind_eq_ok.mp h
    obtain ⟨name, values, hname, hne, hnull, hvalues, -⟩ := listCondition_eq_ok.mp hc
    exact ⟨_, bind_eq_ok.mpr
      ⟨_, listCondition_eq_ok.mpr ⟨name, values, hname, hne, hnull, hvalues, rfl⟩, rfl⟩⟩

/-- Filters that compile under one negation compile under the other one as well. -/
lemma exists_toNodes_not {negate : Bool} {nodes : List CriteriaNode} :
    ∀ fs : List Filter, toNodes r negate fs = .ok nodes →
      ∃ opposites, toNodes r (!negate) fs = .ok opposites
  | [], _ => ⟨[], rfl⟩
  | f :: fs, h => by
    obtain ⟨node, rest, hnode, hrest, -⟩ := List.forall₂_cons_left_iff.mp (toNodes_eq_ok.mp h)
    obtain ⟨opposite, hopposite⟩ := exists_toNode_not f hnode
    obtain ⟨opposites, hopposites⟩ := exists_toNodes_not fs (toNodes_eq_ok.mpr hrest)
    exact ⟨opposite :: opposites, toNodes_eq_ok.mpr
      (.cons hopposite (toNodes_eq_ok.mp hopposites))⟩

end

end Filter

/-! ### Requests -/

/-- The criteria of a compiled request hold for a record exactly when the request's filter is
true there.  The request with the negated filter compiles as well, and its criteria hold exactly
when the filter is false there; where the filter is unknown, neither selects the record. -/
theorem QueryRequest.holds_compile_iff {q : QueryRequest} {f : Filter} {r : Resolver}
    {maxPageSize : UInt32} {entityName : String} {native : NativeQuery}
    (hfilter : q.filter = some f) (h : q.compile r maxPageSize entityName = .ok native) :
    (∀ as, native.criteria.holds as = true ↔ f.outcome r as = .yes) ∧
      ∃ opposite, { q with filter := some (.not f) }.compile r maxPageSize entityName =
          .ok opposite ∧
        ∀ as, opposite.criteria.holds as = true ↔ f.outcome r as = .no := by
  obtain ⟨hpage, hcriteria, hcolumns, horders, hentity⟩ := compile_eq_ok.mp h
  rw [hfilter] at hcriteria
  obtain ⟨node, hnode, hnative⟩ := Filter.toCriteria_eq_ok.mp hcriteria
  obtain ⟨opposite, hopposite⟩ := Filter.exists_toNode_not f hnode
  refine ⟨fun as => ?_, { native with criteria := opposite.toCriteria }, ?_, fun as => ?_⟩
  · rw [hnative, Filter.holds_toNode as f hnode]
    exact Truth.is_true_iff
  · refine compile_eq_ok.mpr ⟨hpage, ?_, hcolumns, horders, hentity⟩
    exact Filter.toCriteria_eq_ok.mpr ⟨opposite, by rw [Filter.toNode]; exact hopposite, rfl⟩
  · rw [Filter.holds_toNode as f hopposite]
    exact Truth.is_false_iff

/-- A person under age whose remark mentions `50%` is selected, and a person whose age is not known
is not selected by the opposite of the filter. -/
theorem QueryRequest.holds_compile_iff_minors :
    let minors := Filter.group .and
      [.compare "age" .lt (.int 18), .textTest .contains "remark" "50%"]
    let r := Resolver.ofTable [("age", "years"), ("remark", "note")] []
    ∃ native opposite,
      { QueryRequest.all with filter := some minors }.compile r 100 "person" = .ok native ∧
      { QueryRequest.all with filter := some (.not minors) }.compile r 100 "person" =
        .ok opposite ∧
      native.criteria.holds (.ofList [("years", .int 12), ("note", .string "pays 50%")]) = true ∧
      opposite.criteria.holds (.ofList [("note", .string "pays 50%")]) = false := by
  intro minors r
  have hcompile : { QueryRequest.all with filter := some minors }.compile r 100 "person" =
      .ok _ := rfl
  obtain ⟨hyes, opposite, hopposite, hno⟩ := QueryRequest.holds_compile_iff rfl hcompile
  refine ⟨_, opposite, rfl, hopposite, (hyes _).mpr (by decide +kernel), ?_⟩
  rw [Bool.eq_false_iff, Ne, hno]
  decide +kernel

end RecordGateway
