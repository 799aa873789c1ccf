import Mathlib.Algebra.Group.Nat.Even
import Mathlib.Data.List.Perm.Basic
import RecordGateway.Mapping.Table
import RecordGateway.Proofs.Compilation.Defects

/-!
# The outline of compiled criteria

Compiled criteria are the filter itself with its negations left out.  Each group of the filter is
one group of the criteria, under its own connective if the number of negations around it is even and
under the other one if it is odd.  Its members keep their order, the leaves among them as conditions
and the groups as nested groups, and no group is merged with another one or left out.  A filter that
is a leaf makes up a group of its own.

`GroupOutline` and `MembersOutline` say this with the number of negations as an index, one rule for
each kind of member.  What a store relies on follows by induction on the rules: no group is empty,
there are as many conditions as leaves and as many levels of groups as in the filter, and every
condition is about the attribute of its leaf and has the operands that its operator takes
(`QueryRequest.outlined_of_compile`).
-/

namespace RecordGateway

/-! ### Parts of filters -/

namespace Filter

/-- The field that a leaf tests. -/
def field? : Filter → Option String
  | group _ _ | not _ => none
  | compare field _ _ | textTest _ field _ | oneOf field _ => some field

/-- The operator of a leaf that is not negated; an ordering comparison with null has none. -/
def operator? : Filter → Option ConditionOperator
  | group _ _ | not _ => none
  | compare _ comparison literal =>
    if literal.isNull then comparison.nullOperator? else some comparison.operator
  | textTest .contains _ _ => some .like
  | textTest .startsWith _ _ => some .beginsWith
  | textTest .endsWith _ _ => some .endsWith
  | oneOf _ _ => some .isIn

/-- The leaves from left to right. -/
def leaves (f : Filter) : List Filter :=
  f.nodes.filter (·.field?.isSome)

/-- The leaves of some filters, one filter after the other. -/
def leavesAll (fs : List Filter) : List Filter :=
  (nodesAll fs).filter (·.field?.isSome)

mutual

/-- The number of levels of groups. -/
def depth : Filter → Nat
  | group _ children => 1 + depthAll children
  | not inner => depth inner
  | compare _ _ _ | textTest _ _ _ | oneOf _ _ => 0

/-- The greatest depth among some filters, zero if there are none. -/
def depthAll : List Filter → Nat
  | [] => 0
  | f :: rest => max (depth f) (depthAll rest)

end

/-- The leaves of some filters come in the order of the filters. -/
lemma leavesAll_cons (f : Filter) (fs : List Filter) :
    leavesAll (f :: fs) = f.leaves ++ leavesAll fs :=
  List.filter_append _ _

end Filter

/-! ### Parts of criteria -/

namespace Criteria

mutual

/-- All groups, each one in front of those nested in it. -/
def groups : Criteria → List Criteria
  | ⟨connective, conditions, nested⟩ => ⟨connective, conditions, nested⟩ :: groupsAll nested

/-- All groups of some criteria, one after the other. -/
def groupsAll : List Criteria → List Criteria
  | [] => []
  | c :: rest => groups c ++ groupsAll rest

end

/-- The conditions of all groups. -/
def allConditions (c : Criteria) : List Condition :=
  c.groups.flatMap conditions

end Criteria

/-- Whether a condition has as many operands as its operator takes. -/
def Condition.FitsArity (c : Condition) : Prop :=
  match c.operator.arity with
  | some n => c.operands.length = n
  | none => 1 ≤ c.operands.length

/-- Whether a condition is about the attribute of a leaf's field, with operands as its operator
takes them. -/
structure Condition.Describes (r : Resolver) (c : Condition) (leaf : Filter) : Prop where
  field_eq : ∃ field, leaf.field? = some field ∧ r.attributeOf? field = some c.attributeName
  arity : c.FitsArity

/-! ### Outlines -/

section Outlines

variable (r : Resolver)

/-- A leaf and its condition; the leaf stands under `n` negations, not counting those in front of
it. -/
inductive LeafOutline : Nat → Filter → Condition → Prop
  | not {n : Nat} {f : Filter} {c : Condition} (h : LeafOutline (n + 1) f c) :
    LeafOutline n (.not f) c
  | leaf {n : Nat} {f : Filter} {c : Condition} {operator : ConditionOperator}
    (describes : c.Describes r f) (operator_eq : f.operator? = some operator)
    (sign : c.operator = if Even n then operator else operator.negated) : LeafOutline n f c

mutual

/-- A group and its criteria; the group stands under `n` negations, not counting those in front of
it. -/
inductive GroupOutline : Nat → Filter → Criteria → Prop
  | not {n : Nat} {f : Filter} {g : Criteria} (h : GroupOutline (n + 1) f g) :
    GroupOutline n (.not f) g
  | group {n : Nat} {connective : Connective} {children : List Filter}
    {conditions : List Condition} {nested : List Criteria} (children_ne : children ≠ [])
    (members : MembersOutline n children conditions nested) :
    GroupOutline n (.group connective children)
      ⟨if Even n then connective else connective.flip, conditions, nested⟩

/-- The members of a group, and the conditions and nested groups that they become. -/
inductive MembersOutline : Nat → List Filter → List Condition → List Criteria → Prop
  | nil {n : Nat} : MembersOutline n [] [] []
  | leaf {n : Nat} {f : Filter} {fs : List Filter} {c : Condition} {cs : List Condition}
    {gs : List Criteria} (first : LeafOutline r n f c) (rest : MembersOutline n fs cs gs) :
    MembersOutline n (f :: fs) (c :: cs) gs
  | group {n : Nat} {f : Filter} {fs : List Filter} {cs : List Condition} {g : Criteria}
    {gs : List Criteria} (first : GroupOutline n f g) (rest : MembersOutline n fs cs gs) :
    MembersOutline n (f :: fs) cs (g :: gs)

end

/-- The node that a filter under `n` negations becomes. -/
def NodeOutline (n : Nat) (f : Filter) : CriteriaNode → Prop
  | .condition c => LeafOutline r n f c
  | .group g => GroupOutline r n f g

end Outlines

/-! ### What outlines imply -/

section Consequences

variable {r : Resolver}

/-- A leaf under any negations has one leaf, and no groups. -/
lemma LeafOutline.leaves_eq {n : Nat} {f : Filter} {c : Condition} (h : LeafOutline r n f c) :
    (∃ leaf, f.leaves = [leaf] ∧ c.Describes r leaf) ∧ f.depth = 0 := by
  induction h with
  | not _ ih => exact ih
  | @leaf n f c operator describes _ _ =>
    obtain ⟨field, hfield, -⟩ := describes.field_eq
    cases f with
    | group connective children => cases hfield
    | not inner => cases hfield
    | _ => exact ⟨⟨_, rfl, describes⟩, rfl⟩

mutual

/-- No group is empty. -/
lemma GroupOutline.isEmpty_eq_false {n : Nat} {f : Filter} {g : Criteria} :
    GroupOutline r n f g → ∀ part ∈ g.groups, part.isEmpty = false
  | .not h => h.isEmpty_eq_false
  | .group children_ne members => by
    intro part hpart
    rw [Criteria.groups] at hpart
    rcases List.mem_cons.mp hpart with rfl | hpart
    · cases members with
      | nil => exact absurd rfl children_ne
      | leaf => rfl
      | group => exact Bool.and_eq_false_iff.mpr (.inr rfl)
    · exact members.isEmpty_eq_false part hpart

/-- No group among the groups of some members is empty. -/
lemma MembersOutline.isEmpty_eq_false {n : Nat} {fs : List Filter} {cs : List Condition}
    {gs : List Criteria} :
    MembersOutline r n fs cs gs → ∀ part ∈ Criteria.groupsAll gs, part.isEmpty = false
  | .nil => fun _ h => absurd h List.not_mem_nil
  | .leaf _ rest => rest.isEmpty_eq_false
  | .group first rest => by
    intro part hpart
    rw [Criteria.groupsAll] at hpart
    rcases List.mem_append.mp hpart with hpart | hpart
    · exact first.isEmpty_eq_false part hpart
    · exact rest.isEmpty_eq_false part hpart

end

mutual

/-- There are as many levels of groups in criteria as in the filter. -/
lemma GroupOutline.depth_eq {n : Nat} {f : Filter} {g : Criteria} :
    GroupOutline r n f g → g.depth = f.depth
  | .not h => h.depth_eq
  | .group _ members => by rw [Criteria.depth, Filter.depth, members.depth_eq]

/-- There are as many levels of groups in the groups of some members as in the members. -/
lemma MembersOutline.depth_eq {n : Nat} {fs : List Filter} {cs : List Condition}
    {gs : List Criteria} :
    MembersOutline r n fs cs gs → Criteria.depthAll gs = Filter.depthAll fs
  | .nil => rfl
  | .leaf first rest => by
    rw [Filter.depthAll, first.leaves_eq.2, rest.depth_eq, Nat.zero_max]
  | .group first rest => by
    rw [Criteria.depthAll, Filter.depthAll, first.depth_eq, rest.depth_eq]

end

mutual

/-- The conditions of criteria are those of the leaves of the filter, in another order. -/
lemma GroupOutline.exists_leaves {n : Nat} {f : Filter} {g : Criteria} : GroupOutline r n f g →
    ∃ leaves : List Filter, leaves.Perm f.leaves ∧
      List.Forall₂ (Condition.Describes r) g.allConditions leaves
  | .not h => h.exists_leaves
  | .group _ members => members.exists_leaves

/-- The conditions of a group stand in front of those of the groups nested in it. -/
lemma MembersOutline.exists_leaves {n : Nat} {fs : List Filter} {cs : List Condition}
    {gs : List Criteria} : MembersOutline r n fs cs gs →
    ∃ leaves : List Filter, leaves.Perm (Filter.leavesAll fs) ∧
      List.Forall₂ (Condition.Describes r)
        (cs ++ (Criteria.groupsAll gs).flatMap Criteria.conditions) leaves
  | .nil => ⟨[], .nil, .nil⟩
  | .leaf first rest => by
    obtain ⟨⟨leaf, hleaf, hdescribes⟩, -⟩ := first.leaves_eq
    obtain ⟨leaves, hperm, hleaves⟩ := rest.exists_leaves
    refine ⟨leaf :: leaves, ?_, .cons hdescribes hleaves⟩
    rw [Filter.leavesAll_cons, hleaf]
    exact hperm.cons leaf
  | @MembersOutline.group _ _ _ _ cs g gs first rest => by
    obtain ⟨inner, hinner, hgroup⟩ := first.exists_leaves
    obtain ⟨leaves, hperm, hleaves⟩ := rest.exists_leaves
    -- the conditions of the first group come after those of the group around it
    have hmove : (cs ++ (Criteria.groupsAll (g :: gs)).flatMap Criteria.conditions).Perm
        (g.allConditions ++ (cs ++ (Criteria.groupsAll gs).flatMap Criteria.conditions)) := by
      rw [Criteria.groupsAll, List.flatMap_append, ← List.append_assoc, ← List.append_assoc]
      exact List.perm_append_comm.append_right _
    obtain ⟨moved, hmoved, hboth⟩ := List.perm_comp_forall₂ hmove (List.rel_append hgroup hleaves)
    refine ⟨moved, hboth.trans ?_, hmoved⟩
    rw [Filter.leavesAll_cons]
    exact hinner.append hperm

end

end Consequences

/-! ### Compiled leaves -/

/-- An operator and its opposite take the same number of operands. -/
lemma ConditionOperator.arity_negated (op : ConditionOperator) : op.negated.arity = op.arity := by
  cases op <;> rfl

section Leaves

variable {r : Resolver} {n : Nat} {negate : Bool} {field : String} {c : Condition}

/-- A leaf is compiled to its condition, if it has the operator that the compiler takes, with
operands that fit it. -/
lemma LeafOutline.of_negatedIf {f : Filter} {name : String} {operator : ConditionOperator}
    {operands : List Value} (hn : negate = !decide (Even n)) (hfield : f.field? = some field)
    (hname : r.attributeOf? field = some name) (hoperator : f.operator? = some operator)
    (harity : Condition.FitsArity ⟨name, operator, operands⟩) :
    LeafOutline r n f ⟨name, operator.negatedIf negate, operands⟩ := by
  have hsign : operator.negatedIf negate = if Even n then operator else operator.negated := by
    by_cases heven : Even n <;> simp [ConditionOperator.negatedIf, hn, heven]
  refine .leaf ⟨⟨field, hfield, hname⟩, ?_⟩ hoperator hsign
  unfold Condition.FitsArity at harity ⊢
  dsimp only at harity ⊢
  cases negate with
  | false => exact harity
  | true =>
    rw [ConditionOperator.negatedIf, if_pos rfl, ConditionOperator.arity_negated]
    exact harity

/-- The condition of a comparison has the outline of its leaf. -/
lemma outline_compareCondition (hn : negate = !decide (Even n)) {comparison : Comparison}
    {literal : Value} (h : compareCondition r negate field comparison literal = .ok c) :
    LeafOutline r n (.compare field comparison literal) c := by
  obtain ⟨name, hname, hliteral⟩ := compareCondition_eq_ok.mp h
  rcases hliteral with ⟨hnull, operator, hoperator, rfl⟩ | ⟨hnull, value, -, rfl⟩
  · refine .of_negatedIf hn rfl hname ((if_pos hnull).trans hoperator) ?_
    cases comparison <;> cases hoperator <;> exact rfl
  · refine .of_negatedIf hn rfl hname (if_neg (by simp [hnull])) ?_
    cases comparison <;> exact rfl

/-- The condition of a test of a text has the outline of its leaf. -/
lemma outline_textCondition (hn : negate = !decide (Even n)) {test : TextTest} {operand : String}
    (h : textCondition r negate test field operand = .ok c) :
    LeafOutline r n (.textTest test field operand) c := by
  obtain ⟨name, stored, hname, -, rfl⟩ := textCondition_eq_ok.mp h
  cases test <;> exact .of_negatedIf hn rfl hname rfl rfl

/-- The condition of a test of membership has the outline of its leaf. -/
lemma outline_listCondition (hn : negate = !decide (Even n)) {literals : List Value}
    (h : listCondition r negate field literals = .ok c) :
    LeafOutline r n (.oneOf field literals) c := by
  obtain ⟨name, values, hname, hne, -, hvalues, rfl⟩ := listCondition_eq_ok.mp h
  refine .of_negatedIf hn rfl hname rfl (?_ : 1 ≤ values.length)
  rw [← hvalues.length_eq]
  exact List.length_pos_iff.mpr hne

end Leaves

/-! ### Compiled filters -/

section Filters

variable {r : Resolver}

mutual

/-- What a filter under `n` negations is compiled to has its outline. -/
theorem outline_of_toNode {n : Nat} {negate : Bool} {node : CriteriaNode}
    (hn : negate = !decide (Even n)) :
    ∀ f : Filter, f.toNode r negate = .ok node → NodeOutline r n f node
  | .group connective children, h => by
    obtain ⟨hne, nodes, hnodes, rfl⟩ := Filter.toNode_group_eq_ok.mp h
    have hsign : (if negate then connective.flip else connective) =
        if Even n then connective else connective.flip := by
      by_cases heven : Even n <;> simp [hn, heven]
    rw [hsign]
    exact .group hne (outline_of_toNodes hn children hnodes)
  | .not inner, h => by
    rw [Filter.toNode] at h
    have hsign : (!negate) = !decide (Even (n + 1)) := by
      rw [hn, decide_eq_decide.mpr Nat.even_add_one, decide_not]
    have hinner : NodeOutline r (n + 1) inner node := outline_of_toNode hsign inner h
    cases node with
    | condition c => exact .not hinner
    | group g => exact .not hinner
  | .compare field comparison literal, h => by
    rw [Filter.toNode] at h
    obtain ⟨c, hc, hnode⟩ := bind_eq_ok.mp h
    cases hnode
    exact outline_compareCondition hn hc
  | .textTest test field operand, h => by
    rw [Filter.toNode] at h
    obtain ⟨c, hc, hnode⟩ := bind_eq_ok.mp h
    cases hnode
    exact outline_textCondition hn hc
  | .oneOf field literals, h => by
    rw [Filter.toNode] at h
    obtain ⟨c, hc, hnode⟩ := bind_eq_ok.mp h
    cases hnode
    exact outline_listCondition hn hc

/-- The members of a group are compiled to its conditions and nested groups, in their order. -/
theorem outline_of_toNodes {n : Nat} {negate : Bool} {nodes : List CriteriaNode}
    (hn : negate = !decide (Even n)) :
    ∀ fs : List Filter, Filter.toNodes r negate fs = .ok nodes →
      MembersOutline r n fs (nodes.filterMap CriteriaNode.condition?)
        (nodes.filterMap CriteriaNode.group?)
  | [], h => by
    rw [List.forall₂_nil_left_iff.mp (Filter.toNodes_eq_ok.mp h)]
    exact .nil
  | f :: fs, h => by
    obtain ⟨node, rest, hnode, hrest, rfl⟩ :=
      List.forall₂_cons_left_iff.mp (Filter.toNodes_eq_ok.mp h)
    have hfirst := outline_of_toNode hn f hnode
    have hmembers := outline_of_toNodes hn fs (Filter.toNodes_eq_ok.mpr hrest)
    cases node with
    | condition c => exact .leaf hfirst hmembers
    | group g => exact .group hfirst hmembers

end

/-- What the criteria of a filter look like. -/
structure Filter.Outlined (r : Resolver) (f : Filter) (criteria : Criteria) : Prop where
  /-- They are the group that the filter is, or one group for a single leaf. -/
  outline : GroupOutline r 0 f criteria ∨
    ∃ c, LeafOutline r 0 f c ∧ criteria = ⟨.and, [c], []⟩
  /-- No group is empty. -/
  nonempty : ∀ g ∈ criteria.groups, g.isEmpty = false
  /-- There are as many conditions as leaves. -/
  count : criteria.allConditions.length = f.leaves.length
  /-- There are as many levels of groups, but at least one. -/
  depth_eq : criteria.depth = max 1 f.depth
  /-- The conditions stand for the leaves one to one, each one with the attribute of its leaf and
  the operands that its operator takes. -/
  describes : ∃ leaves : List Filter, leaves.Perm f.leaves ∧
    List.Forall₂ (Condition.Describes r) criteria.allConditions leaves

/-- A filter that is a group has at least one level. -/
lemma GroupOutline.one_le_depth {n : Nat} {f : Filter} {g : Criteria} (h : GroupOutline r n f g) :
    1 ≤ f.depth := by
  rw [← h.depth_eq]
  cases g
  exact Nat.le_add_right 1 _

/-- A group that stands for a group has its outline. -/
lemma GroupOutline.outlined {f : Filter} {g : Criteria} (h : GroupOutline r 0 f g) :
    f.Outlined r g := by
  obtain ⟨leaves, hperm, hleaves⟩ := h.exists_leaves
  exact {
    outline := .inl h
    nonempty := h.isEmpty_eq_false
    count := hleaves.length_eq.trans hperm.length_eq
    depth_eq := by rw [h.depth_eq, Nat.max_eq_right h.one_le_depth]
    describes := ⟨leaves, hperm, hleaves⟩ }

/-- A group of one condition has the outline of a leaf. -/
lemma LeafOutline.outlined {f : Filter} {c : Condition} (h : LeafOutline r 0 f c) :
    f.Outlined r ⟨.and, [c], []⟩ := by
  obtain ⟨⟨leaf, hleaves, hdescribes⟩, hdepth⟩ := h.leaves_eq
  exact {
    outline := .inr ⟨c, h, rfl⟩
    nonempty := fun g hg => by rw [List.mem_singleton.mp hg]; rfl
    count := by rw [hleaves]; rfl
    depth_eq := by rw [hdepth]; rfl
    describes := ⟨[leaf], by rw [hleaves], .cons hdescribes .nil⟩ }

end Filters

/-- **Compiled criteria are the filter without its negations.**  The criteria of a request that
compiles have a group for each group of the filter, under the connective that the number of
negations around it leaves, and a condition for each leaf, in the places and in the order in which
these stand in the filter. -/
theorem QueryRequest.outlined_of_compile {q : QueryRequest} {f : Filter} {r : Resolver}
    {maxPageSize : UInt32} {entityName : String} {native : NativeQuery}
    (hfilter : q.filter = some f) (h : q.compile r maxPageSize entityName = .ok native) :
    f.Outlined r native.criteria := by
  obtain ⟨-, hcriteria, -⟩ := compile_eq_ok.mp h
  rw [hfilter] at hcriteria
  obtain ⟨node, hnode, hnative⟩ := Filter.toCriteria_eq_ok.mp hcriteria
  have houtline : NodeOutline r 0 f node := outline_of_toNode (by simp) f hnode
  rw [hnative]
  cases node with
  | condition c => exact LeafOutline.outlined houtline
  | group g => exact GroupOutline.outlined houtline

/-! ### A group in a negated group -/

namespace Locals

/-- A resolver for three fields with attributes of other names. -/
def resolver : Resolver :=
  .ofTable [("age", "years"), ("remark", "note"), ("city", "town")] []

/-- Neither a child, nor someone from the coast without a remark about fish, nor someone without a
city. -/
def filter : Filter :=
  .not (.group .or [.compare "age" .lt (.int 18), .group .and
    [.not (.textTest .contains "remark" "fish"), .oneOf "city" [.string "Oslo", .string "Bergen"]],
    .compare "city" .eq .null])

/-- The nested group stands behind the conditions, and the leaf under two negations keeps its
operator. -/
def native : NativeQuery where
  entityName := "person"
  criteria := ⟨.and, [⟨"years", .greaterEqual, [.int 18]⟩, ⟨"town", .isNotNull, []⟩],
    [⟨.or, [⟨"note", .like, [.string "%fish%"]⟩,
      ⟨"town", .isNotIn, [.string "Oslo", .string "Bergen"]⟩], []⟩]⟩
  columns := .all
  orders := []
  page := none

/-- The criteria have the four leaves and the two levels of the filter. -/
theorem outlined_native :
    { QueryRequest.all with filter := some filter }.compile resolver 100 "person" = .ok native ∧
      filter.Outlined resolver native.criteria ∧ filter.leaves.length = 4 ∧
      native.criteria.depth = 2 := by
  have hcompile : { QueryRequest.all with filter := some filter }.compile resolver 100 "person" =
      .ok native := rfl
  have houtlined := QueryRequest.outlined_of_compile rfl hcompile
  exact ⟨hcompile, houtlined, houtlined.count.symm, houtlined.depth_eq⟩

end Locals

end RecordGateway
