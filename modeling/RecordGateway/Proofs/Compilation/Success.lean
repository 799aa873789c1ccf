import Mathlib.Data.List.Forall2
import RecordGateway.Compilation.Basic

/-!
# What compiles

For each part of the compilation, when it succeeds and with which result.  A leaf yields one
condition on the attribute behind its field; a group yields the group of the nodes of its
members, under the connective that the negation leaves; a request yields the native query of its
parts.  Proofs about native queries start from these statements and never open the compiler.
-/

namespace RecordGateway

/-- A sequence of two computations succeeds when both do. -/
lemma bind_eq_ok {ε α β : Type} {x : Except ε α} {f : α → Except ε β} {b : β} :
    (x >>= f) = .ok b ↔ ∃ a, x = .ok a ∧ f a = .ok b := by
  cases x <;> simp [bind, Except.bind]

/-- A list of computations succeeds when each one does, with the results in order. -/
lemma mapM_eq_ok {ε α β : Type} {f : α → Except ε β} {as : List α} {bs : List β} :
    as.mapM f = .ok bs ↔ List.Forall₂ (fun a b => f a = .ok b) as bs := by
  induction as generalizing bs with
  | nil =>
    rw [List.mapM_nil, List.forall₂_nil_left_iff]
    exact ⟨fun h => (Except.ok.inj h).symm, fun h => congrArg Except.ok h.symm⟩
  | cons a as ih =>
    simp only [List.mapM_cons, bind_eq_ok, ih, List.forall₂_cons_left_iff]
    constructor
    · rintro ⟨b, hb, bs', hbs, h⟩
      exact ⟨b, bs', hb, hbs, (Except.ok.inj h).symm⟩
    · rintro ⟨b, bs', hb, hbs, rfl⟩
      exact ⟨b, hb, bs', hbs, rfl⟩

/-- A list of computations that fails fails as one of them does. -/
lemma exists_of_mapM_eq_error {ε α β : Type} {f : α → Except ε β} {as : List α} {e : ε}
    (h : as.mapM f = .error e) : ∃ a ∈ as, f a = .error e := by
  induction as with
  | nil => cases h
  | cons a as ih =>
    rw [List.mapM_cons] at h
    cases ha : f a with
    | error first =>
      rw [ha] at h
      obtain rfl := Except.error.inj h
      exact ⟨a, List.mem_cons_self, ha⟩
    | ok b =>
      rw [ha] at h
      cases hrest : as.mapM f with
      | error first =>
        rw [hrest] at h
        obtain rfl := Except.error.inj h
        obtain ⟨a', ha', hfails⟩ := ih hrest
        exact ⟨a', List.mem_cons_of_mem a ha', hfails⟩
      | ok bs =>
        rw [hrest] at h
        cases h

namespace Resolver

/-- A field is resolved to the attribute that it is mapped to. -/
lemma resolve_eq_ok {r : Resolver} {clause : Clause} {field name : String} :
    r.resolve clause field = .ok name ↔ r.attributeOf? field = some name := by
  unfold resolve
  cases r.attributeOf? field <;> simp

/-- A literal is converted to the value that is stored for it. -/
lemma convert_eq_ok {r : Resolver} {field name : String} {literal value : Value} :
    r.convert field name literal = .ok value ↔ r.toStored name literal = .ok value := by
  unfold convert
  cases r.toStored name literal <;> simp

end Resolver

/-! ### Leaves -/

section Leaves

variable {r : Resolver} {negate : Bool} {field : String} {condition : Condition}

/-- A comparison compiles with null under equality, and with any other literal that converts. -/
theorem compareCondition_eq_ok {comparison : Comparison} {literal : Value} :
    compareCondition r negate field comparison literal = .ok condition ↔
      ∃ name, r.attributeOf? field = some name ∧
        ((literal.isNull = true ∧ ∃ operator, comparison.nullOperator? = some operator ∧
            condition = ⟨name, operator.negatedIf negate, []⟩) ∨
          (literal.isNull = false ∧ ∃ value, r.toStored name literal = .ok value ∧
            condition = ⟨name, comparison.operator.negatedIf negate, [value]⟩)) := by
  simp only [compareCondition, bind_eq_ok, Resolver.resolve_eq_ok]
  refine exists_congr fun name => and_congr_right fun _ => ?_
  cases literal.isNull with
  | true => cases comparison.nullOperator? <;> simp [eq_comm]
  | false =>
    simp only [Bool.false_eq_true, if_false, bind_eq_ok, Resolver.convert_eq_ok, false_and,
      true_and, false_or, Except.ok.injEq]
    exact exists_congr fun value => and_congr_right fun _ => eq_comm

/-- A test of text compiles when its operand converts to a string. -/
theorem textCondition_eq_ok {test : TextTest} {operand : String} :
    textCondition r negate test field operand = .ok condition ↔
      ∃ name stored, r.attributeOf? field = some name ∧
        r.toStored name (.string operand) = .ok (.string stored) ∧
        condition = ⟨name, (test.condition stored).1.negatedIf negate,
          [.string (test.condition stored).2]⟩ := by
  simp only [textCondition, bind_eq_ok, Resolver.resolve_eq_ok, Resolver.convert_eq_ok]
  constructor
  · rintro ⟨name, hname, value, hvalue, h⟩
    cases value with
    | string stored => exact ⟨name, stored, hname, hvalue, (Except.ok.inj h).symm⟩
    | _ => cases h
  · rintro ⟨name, stored, hname, hstored, rfl⟩
    exact ⟨name, hname, .string stored, hstored, rfl⟩

/-- A membership compiles when its list is not empty, has no null, and converts throughout. -/
theorem listCondition_eq_ok {literals : List Value} :
    listCondition r negate field literals = .ok condition ↔
      ∃ name values, r.attributeOf? field = some name ∧ literals ≠ [] ∧
        literals.any Value.isNull = false ∧
        List.Forall₂ (fun literal value => r.toStored name literal = .ok value) literals values ∧
        condition = ⟨name, ConditionOperator.isIn.negatedIf negate, values⟩ := by
  simp only [listCondition, bind_eq_ok, Resolver.resolve_eq_ok]
  constructor
  · rintro ⟨name, hname, h⟩
    split at h
    · cases h
    · rename_i hne
      split at h
      · cases h
      · rename_i hnull
        obtain ⟨values, hvalues, h⟩ := bind_eq_ok.mp h
        simp only [mapM_eq_ok, Resolver.convert_eq_ok] at hvalues
        exact ⟨name, values, hname, by simpa using hne, by simpa using hnull, hvalues,
          (Except.ok.inj h).symm⟩
  · rintro ⟨name, values, hname, hne, hnull, hvalues, rfl⟩
    refine ⟨name, hname, ?_⟩
    rw [if_neg (by simpa using hne), if_neg (by simp [hnull])]
    refine bind_eq_ok.mpr ⟨values, ?_, rfl⟩
    simpa only [mapM_eq_ok, Resolver.convert_eq_ok] using hvalues

end Leaves

/-! ### Groups and requests -/

namespace Filter

variable {r : Resolver} {negate : Bool}

/-- Some filters compile when each one does. -/
theorem toNodes_eq_ok {fs : List Filter} {nodes : List CriteriaNode} :
    toNodes r negate fs = .ok nodes ↔
      List.Forall₂ (fun f node => toNode r negate f = .ok node) fs nodes := by
  induction fs generalizing nodes with
  | nil =>
    rw [toNodes, List.forall₂_nil_left_iff]
    exact ⟨fun h => (Except.ok.inj h).symm, fun h => congrArg Except.ok h.symm⟩
  | cons f fs ih =>
    simp only [toNodes, bind_eq_ok, ih, List.forall₂_cons_left_iff]
    constructor
    · rintro ⟨node, hnode, nodes', hnodes, h⟩
      exact ⟨node, nodes', hnode, hnodes, (Except.ok.inj h).symm⟩
    · rintro ⟨node, nodes', hnode, hnodes, rfl⟩
      exact ⟨node, hnode, nodes', hnodes, rfl⟩

/-- A group compiles when it has members and all of them compile. -/
theorem toNode_group_eq_ok {connective : Connective} {children : List Filter}
    {node : CriteriaNode} :
    toNode r negate (.group connective children) = .ok node ↔
      children ≠ [] ∧ ∃ nodes, toNodes r negate children = .ok nodes ∧
        node = .group (.ofNodes (if negate then connective.flip else connective) nodes) := by
  rw [toNode]
  by_cases hnil : children = []
  · simp [hnil]
  · rw [if_neg (by simpa using hnil), bind_eq_ok]
    simp [hnil, eq_comm]

/-- A filter compiles when its node does, and then the node makes up the criteria. -/
lemma toCriteria_eq_ok {f : Filter} {criteria : Criteria} :
    f.toCriteria r = .ok criteria ↔
      ∃ node, toNode r false f = .ok node ∧ criteria = node.toCriteria := by
  unfold toCriteria
  cases toNode r false f <;> simp [Except.map, eq_comm]

end Filter

/-- A projection to some fields returns the attributes behind them, which all of them must have. -/
lemma columnsOf_eq_ok {r : Resolver} {fields : List String} {columns : ColumnSet} :
    columnsOf r fields = .ok columns ↔ fields ≠ [] ∧ ∃ names,
      List.Forall₂ (fun field name => r.attributeOf? field = some name) fields names ∧
        columns = .only names.eraseDups := by
  unfold columnsOf
  by_cases hnil : fields = []
  · simp [hnil]
  · rw [if_neg (by simpa using hnil), bind_eq_ok]
    simp only [mapM_eq_ok, Resolver.resolve_eq_ok, Except.ok.injEq, ne_eq, hnil, not_false_eq_true,
      true_and]
    exact exists_congr fun names => and_congr_right fun _ => eq_comm

/-- The attributes behind some fields. -/
lemma mem_attributes_iff {r : Resolver} {fields names : List String} {name : String}
    (h : List.Forall₂ (fun field name => r.attributeOf? field = some name) fields names) :
    name ∈ names ↔ ∃ field ∈ fields, r.attributeOf? field = some name := by
  induction h with
  | nil => simp
  | @cons field first fields names hfirst _ ih =>
    rw [List.mem_cons, ih, List.exists_mem_cons_iff, hfirst, Option.some.injEq, eq_comm]

/-- A request compiles when its window, its filter, its fields and its sort keys do. -/
theorem QueryRequest.compile_eq_ok {q : QueryRequest} {r : Resolver} {maxPageSize : UInt32}
    {entityName : String} {native : NativeQuery} :
    q.compile r maxPageSize entityName = .ok native ↔
      pageOf maxPageSize q.skip q.top = .ok native.page ∧
        (match q.filter with
          | some f => f.toCriteria r
          | none => .ok .empty) = .ok native.criteria ∧
        (match q.select with
          | some fields => columnsOf r fields
          | none => .ok .all) = .ok native.columns ∧
        q.orderBy.mapM (sortOrderOf r) = .ok native.orders ∧ native.entityName = entityName := by
  cases hfilter : q.filter <;> cases hselect : q.select <;>
    simp only [compile, hfilter, hselect, bind_eq_ok]
  all_goals
    constructor
    · rintro ⟨page, hpage, criteria, hcriteria, columns, hcolumns, orders, horders, h⟩
      cases h
      exact ⟨hpage, hcriteria, hcolumns, horders, rfl⟩
    · rintro ⟨hpage, hcriteria, hcolumns, horders, rfl⟩
      exact ⟨_, hpage, _, hcriteria, _, hcolumns, _, horders, rfl⟩

end RecordGateway
