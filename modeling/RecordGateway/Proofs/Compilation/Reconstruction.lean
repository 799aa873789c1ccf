import Mathlib.Data.List.Perm.Basic
import RecordGateway.Mapping.Table
import RecordGateway.Proofs.Compilation.Success
import RecordGateway.Proofs.Filter.Meaning

/-!
# Filters reconstructed from criteria

Criteria can be read back as a filter: each condition as the predicate that it stands for, patterns
as the texts that they search for, and the conditions of a group in front of its nested groups.
Operators that only come about under a negation are read back as the opposite comparison, or as the
negated test where there is none.

Read back are the filters that have no negations but those of single tests, and no leaf outside of a
group.  Where fields and attributes correspond one to one and literals are stored as they are, the
filter that is read back has the outcome of the original one on all attributes, and compiles to the
same criteria again (`QueryRequest.exists_reconstruct?_of_compile`).
-/

namespace RecordGateway

/-! ### Texts in patterns -/

namespace Pattern

/-- The text of which a pattern is the escaped form; none if there is no such text. -/
def unescape? : List Char → Option (List Char)
  | [] => some []
  | '[' :: c :: ']' :: rest => (unescape? rest).map (c :: ·)
  | '[' :: _ => none
  | c :: rest => (unescape? rest).map (c :: ·)

/-- The text that a pattern searches for: its escaped form stands between two percent signs. -/
def searched? (pattern : String) : Option String :=
  match pattern.toList with
  | '%' :: rest =>
    if rest.getLast? = some '%' then (unescape? rest.dropLast).map String.ofList else none
  | _ => none

/-- The escape of a character is read as that character, whatever follows. -/
lemma unescape?_escapeChar_append (c : Char) (rest : List Char) :
    unescape? (escapeChar c ++ rest) = (unescape? rest).map (c :: ·) := by
  unfold escapeChar
  split
  · rfl
  · rfl
  · rfl
  · rename_i hbracket _ _
    rw [List.singleton_append, unescape?.eq_4]
    · exact fun _ _ h => absurd h hbracket
    · exact hbracket

/-- An escaped text is read back. -/
theorem unescape?_escape (text : List Char) : unescape? (escape text) = some text := by
  induction text with
  | nil => rfl
  | cons c text ih =>
    have hcons : escape (c :: text) = escapeChar c ++ escape text := rfl
    rw [hcons, unescape?_escapeChar_append, ih]
    rfl

/-- The pattern of a text that is searched for is read back as this text. -/
lemma searched?_enclosed (text : String) :
    searched? (String.ofList ('%' :: escape text.toList ++ ['%'])) = some text := by
  simp [searched?, unescape?_escape]

end Pattern

/-! ### Reading criteria back -/

section Reconstruction

variable (fieldOf? : String → Option String)

/-- The predicate that a condition stands for, if the field of its attribute is known and it has the
operand that its operator needs. -/
def Condition.reconstruct? (c : Condition) : Option Filter := do
  let field ← fieldOf? c.attributeName
  let operand? := c.operands.head?
  let text? := operand?.bind Value.asString?
  match c.operator with
  | .equal => operand?.map (.compare field .eq)
  | .notEqual => operand?.map (.compare field .ne)
  | .lessThan => operand?.map (.compare field .lt)
  | .lessEqual => operand?.map (.compare field .le)
  | .greaterThan => operand?.map (.compare field .gt)
  | .greaterEqual => operand?.map (.compare field .ge)
  | .like => (text?.bind Pattern.searched?).map (.textTest .contains field)
  | .notLike => (text?.bind Pattern.searched?).map fun s => .not (.textTest .contains field s)
  | .beginsWith => text?.map (.textTest .startsWith field)
  | .doesNotBeginWith => text?.map fun s => .not (.textTest .startsWith field s)
  | .endsWith => text?.map (.textTest .endsWith field)
  | .doesNotEndWith => text?.map fun s => .not (.textTest .endsWith field s)
  | .isNull => some (.compare field .eq .null)
  | .isNotNull => some (.compare field .ne .null)
  | .isIn => some (.oneOf field c.operands)
  | .isNotIn => some (.not (.oneOf field c.operands))

namespace Criteria

mutual

/-- The filter that criteria stand for: a group of the predicates of the conditions and of the
filters of the nested groups after them. -/
def reconstruct? : Criteria → Option Filter
  | ⟨connective, conditions, nested⟩ => do
    let leaves ← conditions.mapM (Condition.reconstruct? fieldOf?)
    let groups ← reconstructAll? nested
    some (.group connective (leaves ++ groups))

/-- The filters that some criteria stand for. -/
def reconstructAll? : List Criteria → Option (List Filter)
  | [] => some []
  | c :: rest => do
    let f ← reconstruct? c
    let fs ← reconstructAll? rest
    some (f :: fs)

end

end Criteria

/-- The filter that a node stands for. -/
def CriteriaNode.reconstruct? : CriteriaNode → Option Filter
  | condition c => c.reconstruct? fieldOf?
  | group g => g.reconstruct? fieldOf?

namespace Criteria

/-- The members of a group, its conditions in front of its nested groups. -/
def parts (c : Criteria) : List CriteriaNode :=
  c.conditions.map .condition ++ c.nested.map .group

variable {fieldOf?}

/-- The nested groups are read back one by one. -/
lemma reconstructAll?_of_forall₂ {nested : List Criteria} {gs : List Filter}
    (h : List.Forall₂ (fun c g => c.reconstruct? fieldOf? = some g) nested gs) :
    reconstructAll? fieldOf? nested = some gs := by
  induction h with
  | nil => rfl
  | cons hg _ ih =>
    rw [reconstructAll?, hg, ih]
    rfl

/-- The conditions are read back one by one. -/
lemma mapM_reconstruct?_of_forall₂ {conditions : List Condition} {gs : List Filter}
    (h : List.Forall₂ (fun c g => c.reconstruct? fieldOf? = some g) conditions gs) :
    conditions.mapM (Condition.reconstruct? fieldOf?) = some gs := by
  induction h with
  | nil => rfl
  | cons hg _ ih =>
    rw [List.mapM_cons, hg, ih]
    rfl

/-- Criteria stand for the group of what their members stand for. -/
lemma reconstruct?_of_parts {c : Criteria} {gs : List Filter}
    (h : List.Forall₂ (fun node g => node.reconstruct? fieldOf? = some g) c.parts gs) :
    c.reconstruct? fieldOf? = some (.group c.connective gs) := by
  obtain ⟨connective, conditions, nested⟩ := c
  obtain ⟨leaves, groups, rfl, hleaves, hgroups⟩ :
      ∃ leaves groups, gs = leaves ++ groups ∧
        List.Forall₂ (fun node g => CriteriaNode.reconstruct? fieldOf? node = some g)
          (conditions.map .condition) leaves ∧
        List.Forall₂ (fun node g => CriteriaNode.reconstruct? fieldOf? node = some g)
          (nested.map .group) groups :=
    ⟨_, _, (List.take_append_drop _ gs).symm, (List.forall₂_take_append gs _ _ h.flip).flip,
      (List.forall₂_drop_append gs _ _ h.flip).flip⟩
  rw [reconstruct?, mapM_reconstruct?_of_forall₂ (List.forall₂_map_left_iff.mp hleaves),
    reconstructAll?_of_forall₂ (List.forall₂_map_left_iff.mp hgroups)]
  rfl

/-- A group is the group of its members. -/
lemma ofNodes_parts (c : Criteria) : ofNodes c.connective c.parts = c := by
  cases c
  simp [ofNodes, parts, List.filterMap_append, List.filterMap_map, Function.comp_def,
    CriteriaNode.condition?, CriteriaNode.group?]

/-- The members of the group of some nodes are these nodes, in another order. -/
lemma parts_ofNodes_perm (connective : Connective) (nodes : List CriteriaNode) :
    (ofNodes connective nodes).parts.Perm nodes := by
  induction nodes with
  | nil => exact .nil
  | cons node nodes ih =>
    cases node with
    | condition c => exact ih.cons _
    | group g => exact List.perm_middle.trans (ih.cons _)

end Criteria

end Reconstruction

/-! ### Signs -/

/-- The comparison that is definite in the opposite way. -/
def Comparison.opposite : Comparison → Comparison
  | eq => ne
  | ne => eq
  | lt => ge
  | le => gt
  | gt => le
  | ge => lt

/-- The comparison, or its opposite under a negation. -/
def Comparison.negatedIf (negate : Bool) (c : Comparison) : Comparison :=
  if negate then c.opposite else c

/-- The outcome, or its negation. -/
def Truth.negatedIf (negate : Bool) (t : Truth) : Truth :=
  if negate then t.not else t

/-- The filter, or its negation. -/
def Filter.negatedIf (negate : Bool) (f : Filter) : Filter :=
  if negate then .not f else f

section Signs

variable (negate : Bool)

/-- The operator of a negated comparison is the negated operator. -/
lemma Comparison.operator_negatedIf (c : Comparison) :
    (c.negatedIf negate).operator = c.operator.negatedIf negate := by
  cases negate <;> cases c <;> rfl

/-- The test for null of a negated comparison is the negated test, if there is one. -/
lemma Comparison.nullOperator?_negatedIf (c : Comparison) :
    (c.negatedIf negate).nullOperator? = c.nullOperator?.map (·.negatedIf negate) := by
  cases negate <;> cases c <;> rfl

/-- An outcome under one more negation. -/
lemma Truth.negatedIf_not (t : Truth) : t.not.negatedIf negate = t.negatedIf (!negate) := by
  cases negate <;> cases t <;> rfl

/-- The opposite comparison with null has the negated outcome. -/
lemma nullOutcome_negatedIf (stored : Option Value) (c : Comparison) :
    nullOutcome stored (c.negatedIf negate) = (nullOutcome stored c).negatedIf negate := by
  cases negate with
  | false => rfl
  | true =>
    cases c with
    | eq | ne =>
      simp only [Comparison.negatedIf, Comparison.opposite, Truth.negatedIf, nullOutcome, if_true]
      cases isAbsent stored <;> rfl
    | _ => rfl

/-- The opposite comparison with a value has the negated outcome. -/
lemma orderOutcome_negatedIf (c : Comparison) (stored : Option Value) (value : Value) :
    orderOutcome (c.negatedIf negate) stored value =
      (orderOutcome c stored value).negatedIf negate := by
  cases negate with
  | false => rfl
  | true =>
    unfold orderOutcome
    split
    · rfl
    · rfl
    · split
      · rename_i order _
        cases c <;> cases order <;> rfl
      · rfl

/-- The negation of a joined list, member by member. -/
lemma Truth.join_map_negatedIf (c : Connective) (ts : List Truth) :
    Truth.join (if negate then c.flip else c) (ts.map (Truth.negatedIf negate)) =
      (Truth.join c ts).negatedIf negate := by
  cases negate with
  | false => exact congrArg (Truth.join c) (List.map_id ts)
  | true => exact Truth.join_flip_map_not c ts

namespace Filter

variable {r : Resolver}

/-- A filter that is negated compiles as the filter does under a negation. -/
lemma toNode_negatedIf (f : Filter) : toNode r false (f.negatedIf negate) = toNode r negate f := by
  cases negate with
  | false => rfl
  | true => exact toNode.eq_2 r false f

/-- The outcome of a filter that is negated is the negated outcome. -/
lemma outcome_negatedIf (as : Attributes) (f : Filter) :
    (f.negatedIf negate).outcome r as = (f.outcome r as).negatedIf negate := by
  cases negate with
  | false => rfl
  | true => exact outcome.eq_2 r as f

end Filter

end Signs

/-! ### Nodes that are read back -/

namespace Resolver

variable {r : Resolver}

/-- No two fields have the same attribute. -/
def Injective (r : Resolver) : Prop :=
  ∀ field field' name, r.attributeOf? field = some name → r.attributeOf? field' = some name →
    field = field'

/-- Every literal is stored as it is. -/
def PassesThrough (r : Resolver) : Prop :=
  ∀ name literal, r.toStored name literal = .ok literal

/-- The attribute of a field is taken back to that field. -/
def ReversedBy (r : Resolver) (fieldOf? : String → Option String) : Prop :=
  ∀ field name, r.attributeOf? field = some name → fieldOf? name = some field

/-- A mapping that can be reversed maps no two fields to one attribute. -/
lemma ReversedBy.injective {fieldOf? : String → Option String} (h : r.ReversedBy fieldOf?) :
    r.Injective := by
  intro field field' name hfield hfield'
  exact Option.some.inj ((h field name hfield).symm.trans (h field' name hfield'))

/-- A table without two fields for one attribute is reversed by the same table read from right to
left. -/
lemma reversedBy_ofTable {fields : List (String × String)} {rules : List (String × LiteralRule)}
    (h : (fields.map Prod.snd).Nodup) :
    (ofTable fields rules).ReversedBy fun name => (fields.map Prod.swap).lookup name := by
  intro field name hname
  obtain ⟨front, back, rfl, -⟩ := List.lookup_eq_some_iff.mp hname
  rw [List.map_append, List.map_cons, List.nodup_append] at h
  refine List.lookup_eq_some_iff.mpr ⟨front.map Prod.swap, back.map Prod.swap, ?_, ?_⟩
  · rw [List.map_append, List.map_cons]
    rfl
  · intro entry hentry
    obtain ⟨⟨field', name'⟩, hmem, rfl⟩ := List.mem_map.mp hentry
    have hne : name' ≠ name :=
      h.2.2 name' (List.mem_map_of_mem hmem) name List.mem_cons_self
    exact bne_iff_ne.mpr hne.symm

/-- A mapping that maps no two fields to one attribute can be reversed. -/
lemma Injective.exists_reversedBy (h : r.Injective) : ∃ fieldOf?, r.ReversedBy fieldOf? := by
  classical
  refine ⟨fun name => if hfield : ∃ field, r.attributeOf? field = some name
    then some hfield.choose else none, fun field name hname => ?_⟩
  have hfield : ∃ field, r.attributeOf? field = some name := ⟨field, hname⟩
  exact (dif_pos hfield).trans (congrArg some (h _ _ _ hfield.choose_spec hname))

/-- Literals that are stored as they are stay the same in a list. -/
lemma PassesThrough.eq_of_forall₂ (h : r.PassesThrough) {name : String}
    {literals values : List Value}
    (hvalues : List.Forall₂ (fun literal value => r.toStored name literal = .ok value)
      literals values) : literals = values := by
  simpa only [h name, Except.ok.injEq, List.forall₂_eq_eq_eq] using hvalues

end Resolver

namespace Filter

/-- A node is read back as the filter `g`, which compiles to this node again. -/
structure Represents (r : Resolver) (fieldOf? : String → Option String) (node : CriteriaNode)
    (g : Filter) : Prop where
  reconstruct?_eq : node.reconstruct? fieldOf? = some g
  toNode_eq : toNode r false g = .ok node

/-- A node is read back as a filter that compiles to it again, and that has the outcome of the
filter `f` or of its negation. -/
def ReadsBack (r : Resolver) (fieldOf? : String → Option String) (negate : Bool) (f : Filter)
    (node : CriteriaNode) : Prop :=
  ∃ g, Represents r fieldOf? node g ∧ ∀ as, g.outcome r as = (f.outcome r as).negatedIf negate

section Leaves

variable {r : Resolver} {fieldOf? : String → Option String} {negate : Bool} {field : String}
  {c : Condition} (hpass : r.PassesThrough) (hrev : r.ReversedBy fieldOf?)

include hpass hrev

/-- A comparison is read back as the one with the same outcome or the opposite one. -/
lemma readsBack_compare {comparison : Comparison} {literal : Value}
    (h : compareCondition r negate field comparison literal = .ok c) :
    ReadsBack r fieldOf? negate (.compare field comparison literal) (.condition c) := by
  obtain ⟨name, hname, hc⟩ := compareCondition_eq_ok.mp h
  have hfield : fieldOf? name = some field := hrev field name hname
  refine ⟨.compare field (comparison.negatedIf negate) literal, ⟨?_, ?_⟩, fun as => ?_⟩
  · -- a comparison with null has become a test for null, which is read back as the comparison
    rcases hc with ⟨hnull, operator, hoperator, rfl⟩ | ⟨-, value, hvalue, rfl⟩
    · have hliteral : literal = .null := by
        cases literal with
        | null => rfl
        | _ => cases hnull
      have hsigned := comparison.nullOperator?_negatedIf negate
      rw [hoperator, Option.map_some] at hsigned
      generalize comparison.negatedIf negate = signed at hsigned ⊢
      generalize operator.negatedIf negate = operator at hsigned ⊢
      cases signed <;> cases hsigned <;>
        simp [CriteriaNode.reconstruct?, Condition.reconstruct?, hfield, hliteral]
    · obtain rfl : value = literal := Except.ok.inj (hvalue.symm.trans (hpass name literal))
      rw [← Comparison.operator_negatedIf]
      generalize comparison.negatedIf negate = signed
      cases signed <;>
        simp [CriteriaNode.reconstruct?, Condition.reconstruct?, Comparison.operator, hfield]
  · -- what is read back compiles to the condition that it has been read from
    have hcondition : compareCondition r false field (comparison.negatedIf negate) literal =
        .ok c := by
      refine compareCondition_eq_ok.mpr ⟨name, hname, hc.imp ?_ ?_⟩
      · rintro ⟨hnull, operator, hoperator, rfl⟩
        refine ⟨hnull, operator.negatedIf negate, ?_, rfl⟩
        rw [Comparison.nullOperator?_negatedIf, hoperator, Option.map_some]
      · rintro ⟨hnull, value, hvalue, rfl⟩
        refine ⟨hnull, value, hvalue, ?_⟩
        rw [Comparison.operator_negatedIf]
        rfl
    rw [toNode, hcondition]
    rfl
  · simp only [outcome, fieldOutcome, hname, convertedOutcome, hpass name literal,
      nullOutcome_negatedIf, orderOutcome_negatedIf]
    cases literal.isNull <;> rfl

/-- A test of text is read back as it is or as its negation. -/
lemma readsBack_textTest {test : TextTest} {operand : String}
    (h : textCondition r negate test field operand = .ok c) :
    ReadsBack r fieldOf? negate (.textTest test field operand) (.condition c) := by
  obtain ⟨name, stored, hname, hstored, rfl⟩ := textCondition_eq_ok.mp h
  have hfield : fieldOf? name = some field := hrev field name hname
  obtain rfl : operand = stored := by
    rw [hpass, Except.ok.injEq, Value.string.injEq] at hstored
    exact hstored
  refine ⟨(textTest test field operand).negatedIf negate, ⟨?_, ?_⟩,
    fun as => outcome_negatedIf negate as _⟩
  · cases test with
    | contains =>
      have hsearched : Pattern.searched? (TextTest.contains.condition operand).2 = some operand :=
        Pattern.searched?_enclosed operand
      generalize (TextTest.contains.condition operand).2 = pattern at hsearched ⊢
      cases negate <;>
        simp [CriteriaNode.reconstruct?, Condition.reconstruct?, hfield, TextTest.condition,
          ConditionOperator.negatedIf, ConditionOperator.negated, Filter.negatedIf,
          Value.asString?, hsearched]
    | startsWith | endsWith =>
      cases negate <;>
        simp [CriteriaNode.reconstruct?, Condition.reconstruct?, hfield, TextTest.condition,
          ConditionOperator.negatedIf, ConditionOperator.negated, Filter.negatedIf,
          Value.asString?]
  · rw [toNode_negatedIf, toNode, h]
    rfl

/-- A membership is read back as it is or as its negation. -/
lemma readsBack_oneOf {literals : List Value}
    (h : listCondition r negate field literals = .ok c) :
    ReadsBack r fieldOf? negate (.oneOf field literals) (.condition c) := by
  obtain ⟨name, values, hname, -, -, hvalues, rfl⟩ := listCondition_eq_ok.mp h
  have hfield : fieldOf? name = some field := hrev field name hname
  obtain rfl : literals = values := hpass.eq_of_forall₂ hvalues
  refine ⟨(oneOf field literals).negatedIf negate, ⟨?_, ?_⟩,
    fun as => outcome_negatedIf negate as _⟩
  · cases negate <;>
      simp [CriteriaNode.reconstruct?, Condition.reconstruct?, hfield,
        ConditionOperator.negatedIf, ConditionOperator.negated, Filter.negatedIf]
  · rw [toNode_negatedIf, toNode, h]
    rfl

end Leaves

/-! ### Groups and requests -/

section Groups

variable {r : Resolver} {fieldOf? : String → Option String}

/-- If some nodes are read back, then their group is: with the same members in another order. -/
lemma exists_represents_ofNodes {connective : Connective} {nodes : List CriteriaNode}
    {gs : List Filter} (hne : gs ≠ []) (h : List.Forall₂ (Represents r fieldOf?) nodes gs) :
    ∃ gs', gs'.Perm gs ∧
      Represents r fieldOf? (.group (.ofNodes connective nodes)) (.group connective gs') := by
  obtain ⟨gs', hgs', hperm⟩ :=
    List.perm_comp_forall₂ (Criteria.parts_ofNodes_perm connective nodes) h
  refine ⟨gs', hperm, ?_, ?_⟩
  · exact Criteria.reconstruct?_of_parts (hgs'.imp fun _ _ hg => hg.reconstruct?_eq)
  · have hnodes : toNodes r false gs' = .ok (Criteria.ofNodes connective nodes).parts :=
      toNodes_eq_ok.mpr (hgs'.imp fun _ _ hg => hg.toNode_eq).flip
    refine toNode_group_eq_ok.mpr ⟨?_, _, hnodes, ?_⟩
    · rintro rfl
      exact hne hperm.nil_eq.symm
    · exact congrArg CriteriaNode.group (Criteria.ofNodes_parts _).symm

mutual

/-- What a filter compiles to is read back. -/
theorem readsBack (hpass : r.PassesThrough) (hrev : r.ReversedBy fieldOf?) (negate : Bool) :
    ∀ (f : Filter) (node : CriteriaNode), toNode r negate f = .ok node →
      ReadsBack r fieldOf? negate f node
  | .group connective children, node, h => by
    obtain ⟨hne, nodes, hnodes, rfl⟩ := toNode_group_eq_ok.mp h
    obtain ⟨gs, hgs, houtcomes⟩ := readsBackAll hpass hrev negate children nodes hnodes
    have hgsne : gs ≠ [] := by
      rintro rfl
      cases hgs
      cases children with
      | nil => exact hne rfl
      | cons => cases toNodes_eq_ok.mp hnodes
    obtain ⟨gs', hperm, hgs'⟩ := exists_represents_ofNodes hgsne hgs
    refine ⟨_, hgs', fun as => ?_⟩
    rw [outcome, outcomes_eq_map, Truth.join_perm _ (hperm.map _), ← outcomes_eq_map, houtcomes,
      Truth.join_map_negatedIf, outcome]
  | .not inner, node, h => by
    obtain ⟨g, hg, houtcome⟩ :=
      readsBack hpass hrev (!negate) inner node (toNode.eq_2 r negate inner ▸ h)
    exact ⟨g, hg, fun as => by rw [houtcome, outcome, Truth.negatedIf_not]⟩
  | .compare field comparison literal, node, h => by
    obtain ⟨c, hc, h⟩ := bind_eq_ok.mp (toNode.eq_3 r negate field comparison literal ▸ h)
    cases h
    exact readsBack_compare hpass hrev hc
  | .textTest test field operand, node, h => by
    obtain ⟨c, hc, h⟩ := bind_eq_ok.mp (toNode.eq_4 r negate test field operand ▸ h)
    cases h
    exact readsBack_textTest hpass hrev hc
  | .oneOf field literals, node, h => by
    obtain ⟨c, hc, h⟩ := bind_eq_ok.mp (toNode.eq_5 r negate field literals ▸ h)
    cases h
    exact readsBack_oneOf hpass hrev hc

/-- What some filters compile to is read back node by node. -/
theorem readsBackAll (hpass : r.PassesThrough) (hrev : r.ReversedBy fieldOf?) (negate : Bool) :
    ∀ (fs : List Filter) (nodes : List CriteriaNode), toNodes r negate fs = .ok nodes →
      ∃ gs, List.Forall₂ (Represents r fieldOf?) nodes gs ∧
        ∀ as, outcomes r as gs = (outcomes r as fs).map (Truth.negatedIf negate)
  | [], nodes, h => by
    cases h
    exact ⟨[], .nil, fun _ => rfl⟩
  | f :: fs, nodes, h => by
    obtain ⟨node, hnode, h⟩ := bind_eq_ok.mp (toNodes.eq_2 r negate f fs ▸ h)
    obtain ⟨rest, hrest, h⟩ := bind_eq_ok.mp h
    cases h
    obtain ⟨g, hg, houtcome⟩ := readsBack hpass hrev negate f node hnode
    obtain ⟨gs, hgs, houtcomes⟩ := readsBackAll hpass hrev negate fs rest hrest
    refine ⟨g :: gs, .cons hg hgs, fun as => ?_⟩
    rw [outcomes, outcomes, List.map_cons, houtcome, houtcomes]

end

/-- The criteria of a filter are read back, a single condition as a group of its own. -/
theorem exists_reconstruct?_of_toCriteria (hpass : r.PassesThrough)
    (hrev : r.ReversedBy fieldOf?) {f : Filter} {criteria : Criteria}
    (h : f.toCriteria r = .ok criteria) :
    ∃ g, criteria.reconstruct? fieldOf? = some g ∧ (∀ as, g.outcome r as = f.outcome r as) ∧
      g.toCriteria r = .ok criteria := by
  cases hnode : f.toNode r false with
  | error e =>
    rw [toCriteria, hnode] at h
    cases h
  | ok node =>
    obtain rfl : node.toCriteria = criteria := by
      rw [toCriteria, hnode] at h
      exact Except.ok.inj h
    obtain ⟨g, hg, houtcome⟩ := readsBack hpass hrev false f node hnode
    cases node with
    | group criteria =>
      exact ⟨g, hg.reconstruct?_eq, houtcome, congrArg (Except.map _) hg.toNode_eq⟩
    | condition c =>
      have hsingle : List.Forall₂ (Represents r fieldOf?) [.condition c] [g] := .cons hg .nil
      obtain ⟨gs, hperm, hgs⟩ := exists_represents_ofNodes (List.cons_ne_nil g []) hsingle
      obtain rfl : gs = [g] := List.perm_singleton.mp hperm
      refine ⟨.group .and [g], hgs.reconstruct?_eq, fun as => ?_,
        congrArg (Except.map _) hgs.toNode_eq⟩
      rw [outcome, outcomes, outcomes, Truth.join_singleton]
      exact houtcome as

end Groups

end Filter

/-- Let no two fields have the same attribute, and let every literal be stored as it is.  Then the
criteria of a request that compiles are read back, by any way back from attributes to fields, as a
filter that has the outcome of the request's own filter on all attributes, and that compiles to the
same native query in its place. -/
theorem QueryRequest.exists_reconstruct?_of_compile {r : Resolver} (hinj : r.Injective)
    (hpass : r.PassesThrough) :
    (∃ fieldOf?, r.ReversedBy fieldOf?) ∧
      ∀ fieldOf?, r.ReversedBy fieldOf? →
        ∀ (q : QueryRequest) (f : Filter) (maxPageSize : UInt32) (entityName : String)
          (native : NativeQuery), q.filter = some f →
          q.compile r maxPageSize entityName = .ok native →
          ∃ g, native.criteria.reconstruct? fieldOf? = some g ∧
            (∀ as, g.outcome r as = f.outcome r as) ∧
            { q with filter := some g }.compile r maxPageSize entityName = .ok native := by
  refine ⟨hinj.exists_reversedBy, ?_⟩
  intro fieldOf? hrev q f maxPageSize entityName native hf hq
  obtain ⟨hpage, hcriteria, hcolumns, horders, hname⟩ := compile_eq_ok.mp hq
  rw [hf] at hcriteria
  obtain ⟨g, hg, houtcome, hcompiled⟩ :=
    Filter.exists_reconstruct?_of_toCriteria hpass hrev hcriteria
  exact ⟨g, hg, houtcome, compile_eq_ok.mpr ⟨hpage, hcompiled, hcolumns, horders, hname⟩⟩

/-! ### A negated group -/

namespace Remarks

/-- Ages and remarks in attributes of other names. -/
def fields : List (String × String) :=
  [("age", "years"), ("remark", "note")]

/-- A resolver for these fields, whose values are stored as they are. -/
def resolver : Resolver :=
  .ofTable fields []

/-- Neither a remark about half the price nor an age that is missing or at least ten. -/
def filter : Filter :=
  .not (.group .or [.group .or [.compare "age" .eq .null, .compare "age" .ge (.int 10)],
    .textTest .contains "remark" "50%_[off]"])

/-- A request for the records that pass the filter. -/
def request : QueryRequest :=
  { QueryRequest.all with filter := some filter }

/-- The nested group comes last, and the marks of the pattern stand in brackets. -/
def native : NativeQuery where
  entityName := "person"
  criteria := ⟨.and, [⟨"note", .notLike, [.string "%50[%][_][[]off]%"]⟩],
    [⟨.and, [⟨"years", .isNotNull, []⟩, ⟨"years", .lessThan, [.int 10]⟩], []⟩]⟩
  columns := .all
  orders := []
  page := none

/-- The criteria of the request are read back without loss. -/
theorem exists_reconstruct?_native :
    request.compile resolver 50 "person" = .ok native ∧
      ∃ g, native.criteria.reconstruct? (fun name => (fields.map Prod.swap).lookup name) =
          some g ∧
        (∀ as, g.outcome resolver as = filter.outcome resolver as) ∧
        { request with filter := some g }.compile resolver 50 "person" = .ok native := by
  have hcompile : request.compile resolver 50 "person" = .ok native := by rfl
  have hrev : resolver.ReversedBy fun name => (fields.map Prod.swap).lookup name :=
    Resolver.reversedBy_ofTable (by decide)
  have hpass : resolver.PassesThrough := fun _ _ => rfl
  exact ⟨hcompile, (QueryRequest.exists_reconstruct?_of_compile hrev.injective hpass).2 _ hrev
    request filter 50 "person" native rfl hcompile⟩

end Remarks

end RecordGateway
