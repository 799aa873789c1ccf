import Mathlib.Tactic.MkIffOfInductiveProp
import RecordGateway.Proofs.Compilation.Success

/-!
# Defects of requests

All defects of a query request in their order: those of the window, those of the filter node by node
with a group before its members, those of the fields to return, and those of the sort keys.  A
request without defects is well formed.

Compilation stops at the first defect that it meets.  `Reports` says this of one computation and a
list of defects, and passes through the steps of the compiler: in a sequence the defects of the
first part stand in front of those of the second.  The sign of a node plays no part in it, so that
the statement holds for every filter under both signs.

The main theorem is `QueryRequest.compiles_iff_wellFormed`: exactly the well-formed requests
compile, every other request is refused for its first defect, and the negations of a filter change
nothing about either.
-/

namespace RecordGateway

/-! ### First defects -/

/-- Whether a computation succeeds if a list of defects is empty, and otherwise fails for the first
one. -/
def Reports {ε α : Type} (x : Except ε α) (defects : List ε) : Prop :=
  match x with
  | .ok _ => defects = []
  | .error e => defects.head? = some e

section Reports

variable {ε α β : Type} {x : Except ε α} {defects rest : List ε}

/-- A computation succeeds precisely if there are no defects. -/
lemma Reports.exists_ok_iff (h : Reports x defects) : (∃ a, x = .ok a) ↔ defects = [] := by
  cases x with
  | ok a => exact ⟨fun _ => h, fun _ => ⟨a, rfl⟩⟩
  | error e =>
    constructor
    · rintro ⟨a, ha⟩
      cases ha
    · rintro rfl
      cases h

/-- A computation fails precisely for the first defect. -/
lemma Reports.eq_error_iff (h : Reports x defects) {e : ε} :
    x = .error e ↔ defects.head? = some e := by
  cases x with
  | ok a =>
    obtain rfl : defects = [] := h
    exact iff_of_false nofun nofun
  | error e' =>
    rw [show defects.head? = some e' from h]
    simp

/-- A sequence of two computations, the second of which runs if the first one succeeds. -/
lemma Reports.bind {f : α → Except ε β} (h : Reports x defects)
    (hf : ∀ a, x = .ok a → Reports (f a) rest) : Reports (x >>= f) (defects ++ rest) := by
  cases x with
  | ok a =>
    obtain rfl : defects = [] := h
    exact hf a rfl
  | error e =>
    obtain ⟨tail, rfl⟩ := List.head?_eq_some_iff.mp h
    exact rfl

/-- What is done with a result has no defects. -/
lemma Reports.map (h : Reports x defects) (f : α → β) : Reports (x.map f) defects := by
  cases x <;> exact h

/-- A sequence whose second computation always succeeds. -/
lemma Reports.bind_ok {f : α → β} (h : Reports x defects) :
    Reports (x >>= fun a => .ok (f a)) defects := by
  rw [← List.append_nil defects]
  exact h.bind fun _ _ => rfl

/-- A list of computations, one after the other. -/
lemma reports_mapM {f : α → Except ε β} {g : α → List ε} (h : ∀ a, Reports (f a) (g a))
    (as : List α) : Reports (as.mapM f) (as.flatMap g) := by
  induction as with
  | nil => exact rfl
  | cons a as ih =>
    rw [List.mapM_cons, List.flatMap_cons]
    exact (h a).bind fun b _ => ih.bind_ok

end Reports

/-- The defect `e`, if there is one. -/
def defectIf (c : Prop) [Decidable c] (e : CompilationError) : List CompilationError :=
  if c then [e] else []

/-- There is no defect precisely if its condition fails. -/
@[simp] lemma defectIf_eq_nil {c : Prop} [Decidable c] {e : CompilationError} :
    defectIf c e = [] ↔ ¬c := by
  unfold defectIf
  split <;> simp [*]

/-- A check in front of a computation. -/
lemma reports_ite {α : Type} {c : Prop} [Decidable c] {e : CompilationError}
    {x : Except CompilationError α} {defects : List CompilationError}
    (h : ¬c → Reports x defects) :
    Reports (if c then .error e else x) (defectIf c e ++ defects) := by
  unfold defectIf
  split
  · exact rfl
  · exact h ‹_›

/-- A check in front of a result. -/
lemma reports_ite_ok {α : Type} {c : Prop} [Decidable c] {e : CompilationError} {a : α} :
    Reports (if c then .error e else .ok a) (defectIf c e) := by
  rw [← List.append_nil (defectIf c e)]
  exact reports_ite fun _ => rfl

/-! ### Windows -/

/-- The defects of a window of rows. -/
def windowDefects (maxPageSize : UInt32) (skip top : Option Int64) : List CompilationError :=
  let skipped : Int := (skip.map Int64.toInt).getD 0
  defectIf (skipped < 0) (.negative .skip skipped) ++ match top.map Int64.toInt with
    | none => defectIf (0 < skipped) (.skipWithoutTop skipped)
    | some count =>
      defectIf (count < 0) (.negative .top count) ++
        (defectIf ((maxPageSize.toNat : Int) < count) (.pageTooLarge count maxPageSize) ++
          (defectIf (0 < count ∧ ¬count ∣ skipped) (.misalignedPaging skipped count) ++
            defectIf (0 < count ∧ (UInt32.size : Int) ≤ skipped / count + 1)
              (.pageOutOfRange skipped)))

/-- Whether a window of rows is a page: the rows to skip are a multiple of the rows to return, which
are not too many, and the number of the page fits in a word. -/
@[mk_iff]
structure WindowFits (maxPageSize : UInt32) (skip top : Option Int64) : Prop where
  skip_nonneg : ∀ s ∈ skip, 0 ≤ s.toInt
  top_nonneg : ∀ t ∈ top, 0 ≤ t.toInt
  top_of_skip : ∀ s ∈ skip, 0 < s.toInt → top.isSome = true
  top_le : ∀ t ∈ top, t.toInt ≤ maxPageSize.toNat
  dvd : ∀ t ∈ top, 0 < t.toInt → ∀ s ∈ skip, t.toInt ∣ s.toInt
  page_le : ∀ t ∈ top, 0 < t.toInt → ∀ s ∈ skip, s.toInt / t.toInt + 1 < UInt32.size

/-- The windows without defects are the pages. -/
lemma windowDefects_eq_nil_iff {maxPageSize : UInt32} {skip top : Option Int64} :
    windowDefects maxPageSize skip top = [] ↔ WindowFits maxPageSize skip top := by
  rw [windowFits_iff]
  unfold windowDefects
  rcases skip with - | s <;> rcases top with - | t
  case none.none => simp
  case none.some => simp
  case some.none => simp
  case some.some => simp

/-- The window of a request is refused for its first defect. -/
lemma reports_pageOf (maxPageSize : UInt32) (skip top : Option Int64) :
    Reports (pageOf maxPageSize skip top) (windowDefects maxPageSize skip top) := by
  unfold pageOf windowDefects
  generalize (skip.map Int64.toInt).getD 0 = skipped
  refine reports_ite fun _ => ?_
  cases top.map Int64.toInt with
  | none => exact reports_ite_ok
  | some count =>
    refine reports_ite fun hcount => reports_ite fun _ => ?_
    by_cases hzero : count = 0
    · -- no rows are a page of their own, whatever there is to skip
      subst hzero
      rw [if_pos rfl]
      simp [Reports, defectIf]
    · have hpos : 0 < count := by omega
      simp only [if_neg hzero, hpos, true_and, Int.dvd_iff_emod_eq_zero]
      exact reports_ite fun _ => reports_ite_ok

/-! ### Filters -/

section Filters

variable (r : Resolver)

/-- The defect of a field that has no attribute. -/
def mappingDefects (clause : Clause) (field : String) : List CompilationError :=
  defectIf (r.attributeOf? field = none) (.unmappedField clause field)

/-- The defect of a literal that does not convert. -/
def conversionDefects (field name : String) (literal : Value) : List CompilationError :=
  match r.toStored name literal with
  | .ok _ => []
  | .error e => [.invalidLiteral field e.message]

/-- The defects of a leaf: those of its field, those of its form, and then those of its literals,
which are converted for the attribute behind the field. -/
def leafDefects (field : String) (form : List CompilationError)
    (conversions : String → List CompilationError) : List CompilationError :=
  mappingDefects r .filter field ++ (form ++ (r.attributeOf? field).elim [] conversions)

/-- The defects of a test of text: its operand does not convert, or not to a string. -/
def operandDefects (test : TextTest) (field operand name : String) : List CompilationError :=
  match r.toStored name (.string operand) with
  | .ok (.string _) => []
  | .ok _ => [.invalidLiteral field s!"{test.text}() needs a string operand"]
  | .error e => [.invalidLiteral field e.message]

namespace Filter

/-- The defects that a node of a filter has on its own, without its members. -/
def ownDefects : Filter → List CompilationError
  | group connective children => defectIf (children = []) (.emptyGroup connective)
  | not _ => []
  | compare field comparison literal =>
    if literal.isNull then
      leafDefects r field (defectIf comparison.isOrdering (.nullOrdering field comparison))
        fun _ => []
    else leafDefects r field [] (conversionDefects r field · literal)
  | textTest test field operand => leafDefects r field [] (operandDefects r test field operand)
  | oneOf field literals =>
    leafDefects r field
      (defectIf (literals = []) (.emptyInList field) ++
        defectIf (literals.any Value.isNull) (.nullInList field))
      fun name => literals.flatMap (conversionDefects r field name)

mutual

/-- The nodes of a filter from left to right, each one in front of its members. -/
def nodes : Filter → List Filter
  | group connective children => group connective children :: nodesAll children
  | not inner => not inner :: nodes inner
  | f => [f]

/-- The nodes of some filters, one filter after the other. -/
def nodesAll : List Filter → List Filter
  | [] => []
  | f :: rest => nodes f ++ nodesAll rest

end

/-- The defects of a filter, node by node. -/
def defects (f : Filter) : List CompilationError :=
  f.nodes.flatMap (ownDefects r)

/-- The defects of some filters. -/
def defectsAll (fs : List Filter) : List CompilationError :=
  (nodesAll fs).flatMap (ownDefects r)

/-- The defects of a group are that it is empty, if it is, and those of its children. -/
lemma defects_group (connective : Connective) (children : List Filter) :
    defects r (.group connective children) =
      defectIf (children = []) (.emptyGroup connective) ++ defectsAll r children :=
  rfl

/-- The defects of some filters come in the order of the filters. -/
lemma defectsAll_cons (f : Filter) (fs : List Filter) :
    defectsAll r (f :: fs) = defects r f ++ defectsAll r fs :=
  List.flatMap_append

end Filter

/-! ### Filters that are refused -/

variable {r}

/-- A field is refused if it is not mapped. -/
lemma reports_resolve (clause : Clause) (field : String) :
    Reports (r.resolve clause field) (mappingDefects r clause field) := by
  unfold Resolver.resolve mappingDefects
  cases r.attributeOf? field <;> exact rfl

/-- A literal is refused if it cannot be stored. -/
lemma reports_convert (field name : String) (literal : Value) :
    Reports (r.convert field name literal) (conversionDefects r field name literal) := by
  unfold Resolver.convert conversionDefects
  cases r.toStored name literal <;> exact rfl

/-- A leaf is refused for its field first, then for its form, and then for its literals. -/
lemma reports_leaf {α : Type} {field : String} {form : List CompilationError}
    {conversions : String → List CompilationError} {f : String → Except CompilationError α}
    (h : ∀ name, Reports (f name) (form ++ conversions name)) :
    Reports (r.resolve .filter field >>= f) (leafDefects r field form conversions) := by
  refine (reports_resolve .filter field).bind fun name hname => ?_
  rw [Resolver.resolve_eq_ok.mp hname]
  exact h name

/-- A comparison is refused for the first of its defects, negated or not. -/
lemma reports_compareCondition (negate : Bool) (field : String) (comparison : Comparison)
    (literal : Value) : Reports (compareCondition r negate field comparison literal)
      (Filter.ownDefects r (.compare field comparison literal)) := by
  unfold compareCondition Filter.ownDefects
  split
  case isTrue hnull =>
    simp only [if_pos hnull]
    refine reports_leaf fun name => ?_
    cases comparison <;> exact rfl
  case isFalse hnull =>
    simp only [if_neg hnull]
    refine reports_leaf fun name => ?_
    exact (reports_convert field name literal).bind_ok

/-- A test of a text is refused for the first of its defects, negated or not. -/
lemma reports_textCondition (negate : Bool) (test : TextTest) (field operand : String) :
    Reports (textCondition r negate test field operand)
      (Filter.ownDefects r (.textTest test field operand)) := by
  refine reports_leaf fun name => ?_
  unfold Resolver.convert operandDefects
  cases r.toStored name (.string operand) with
  | error e => exact rfl
  | ok value => cases value <;> exact rfl

/-- A test of membership is refused for the first of its defects, negated or not. -/
lemma reports_listCondition (negate : Bool) (field : String) (literals : List Value) :
    Reports (listCondition r negate field literals)
      (Filter.ownDefects r (.oneOf field literals)) := by
  refine reports_leaf fun name => ?_
  simp only [List.isEmpty_iff, List.append_assoc]
  exact reports_ite fun _ => reports_ite fun _ =>
    (reports_mapM (reports_convert field name) literals).bind_ok

namespace Filter

mutual

/-- A filter is refused for its first defect, under both signs. -/
theorem reports_toNode (negate : Bool) :
    ∀ f : Filter, Reports (toNode r negate f) (defects r f)
  | .group connective children => by
    rw [toNode, defects_group]
    simp only [List.isEmpty_iff]
    exact reports_ite fun _ => (reports_toNodes negate children).bind_ok
  | .not inner => by
    rw [toNode]
    exact reports_toNode (!negate) inner
  | .compare field comparison literal => by
    rw [toNode]
    have hcondition := reports_compareCondition (r := r) negate field comparison literal
    simpa [defects, nodes] using hcondition.bind_ok (f := CriteriaNode.condition)
  | .textTest test field operand => by
    rw [toNode]
    simpa [defects, nodes] using
      (reports_textCondition negate test field operand).bind_ok (f := CriteriaNode.condition)
  | .oneOf field literals => by
    rw [toNode]
    simpa [defects, nodes] using
      (reports_listCondition negate field literals).bind_ok (f := CriteriaNode.condition)

/-- Of some filters the first one with a defect is refused for its first defect. -/
theorem reports_toNodes (negate : Bool) :
    ∀ fs : List Filter, Reports (toNodes r negate fs) (defectsAll r fs)
  | [] => rfl
  | f :: fs => by
    rw [toNodes, defectsAll_cons]
    exact (reports_toNode negate f).bind fun _ _ => (reports_toNodes negate fs).bind_ok

end

/-! ### Well-formed filters -/

variable (r) in
/-- Whether a node of a filter is sound without regard to its members: a group has members, and a
leaf has a field with an attribute and literals that convert for it.  With null only equality
compares, and null is never converted; it is no member of a list, which must not be empty. -/
def NodeSound : Filter → Prop
  | group _ children => children ≠ []
  | not _ => True
  | compare field comparison literal => ∃ name, r.attributeOf? field = some name ∧
    if literal.isNull then comparison.isOrdering = false
    else ∃ value, r.toStored name literal = .ok value
  | textTest _ field operand => ∃ name stored, r.attributeOf? field = some name ∧
    r.toStored name (.string operand) = .ok (.string stored)
  | oneOf field literals => ∃ name, r.attributeOf? field = some name ∧ literals ≠ [] ∧
    ∀ literal ∈ literals, literal.isNull = false ∧ ∃ value, r.toStored name literal = .ok value

variable (r) in
/-- Whether all nodes of a filter are sound. -/
def WellFormed (f : Filter) : Prop :=
  ∀ g ∈ f.nodes, g.NodeSound r

end Filter

/-- A literal has no defect precisely if it can be stored. -/
lemma conversionDefects_eq_nil_iff {field name : String} {literal : Value} :
    conversionDefects r field name literal = [] ↔ ∃ value, r.toStored name literal = .ok value := by
  unfold conversionDefects
  cases r.toStored name literal <;> simp

/-- The operand of a test has no defect precisely if it is stored as a text. -/
lemma operandDefects_eq_nil_iff {test : TextTest} {field operand name : String} :
    operandDefects r test field operand name = [] ↔
      ∃ stored, r.toStored name (.string operand) = .ok (.string stored) := by
  unfold operandDefects
  cases r.toStored name (.string operand) with
  | error e => simp
  | ok value => cases value <;> simp

/-- A leaf has no defect precisely if its field is mapped, its form is in order and its literals can
be stored. -/
lemma leafDefects_eq_nil_iff {field : String} {form : List CompilationError}
    {conversions : String → List CompilationError} :
    leafDefects r field form conversions = [] ↔
      ∃ name, r.attributeOf? field = some name ∧ form = [] ∧ conversions name = [] := by
  unfold leafDefects mappingDefects
  cases r.attributeOf? field <;> simp

namespace Filter

/-- The sound nodes are those without defects of their own. -/
lemma ownDefects_eq_nil_iff {f : Filter} : f.ownDefects r = [] ↔ f.NodeSound r := by
  cases f with
  | group connective children => exact defectIf_eq_nil
  | not inner => exact iff_of_true rfl trivial
  | compare field comparison literal =>
    cases hnull : literal.isNull <;>
      simp [ownDefects, NodeSound, hnull, leafDefects_eq_nil_iff, conversionDefects_eq_nil_iff]
  | textTest test field operand =>
    simp [ownDefects, NodeSound, leafDefects_eq_nil_iff, operandDefects_eq_nil_iff]
  | oneOf field literals =>
    simp only [ownDefects, NodeSound, leafDefects_eq_nil_iff]
    refine exists_congr fun name => and_congr_right fun _ => ?_
    simp [conversionDefects_eq_nil_iff, and_assoc, forall_and]

/-- The well-formed filters are those without defects. -/
lemma defects_eq_nil_iff {f : Filter} : f.defects r = [] ↔ f.WellFormed r :=
  List.flatMap_eq_nil_iff.trans (forall₂_congr fun _ _ => ownDefects_eq_nil_iff)

end Filter

/-! ### Negations -/

namespace Filter

mutual

/-- A filter with its negations left out. -/
def withoutNot : Filter → Filter
  | group connective children => group connective (withoutNotAll children)
  | not inner => withoutNot inner
  | f => f

/-- Some filters with their negations left out. -/
def withoutNotAll : List Filter → List Filter
  | [] => []
  | f :: rest => withoutNot f :: withoutNotAll rest

end

/-- Leaving out negations makes no group empty. -/
lemma withoutNotAll_eq_nil_iff {fs : List Filter} : withoutNotAll fs = [] ↔ fs = [] := by
  cases fs <;> simp [withoutNotAll]

mutual

/-- Negations are no defects and hide none. -/
lemma defects_withoutNot : ∀ f : Filter, defects r f.withoutNot = defects r f
  | .group connective children => by
    rw [withoutNot, defects_group, defects_group, defectsAll_withoutNotAll children]
    simp only [withoutNotAll_eq_nil_iff]
  | .not inner => defects_withoutNot inner
  | .compare _ _ _ => rfl
  | .textTest _ _ _ => rfl
  | .oneOf _ _ => rfl

/-- Negations are no defects and hide none, in any of some filters. -/
lemma defectsAll_withoutNotAll :
    ∀ fs : List Filter, defectsAll r (withoutNotAll fs) = defectsAll r fs
  | [] => rfl
  | f :: fs => by
    rw [withoutNotAll, defectsAll_cons, defectsAll_cons, defects_withoutNot f,
      defectsAll_withoutNotAll fs]

end

end Filter

/-! ### Requests -/

variable (r) in
/-- The defects of the fields to return. -/
def selectDefects : Option (List String) → List CompilationError
  | none => []
  | some fields => defectIf (fields = []) .emptySelect ++ fields.flatMap (mappingDefects r .select)

/-- A field has no defect precisely if it is mapped. -/
lemma mappingDefects_eq_nil_iff {clause : Clause} {field : String} :
    mappingDefects r clause field = [] ↔ ∃ name, r.attributeOf? field = some name := by
  rw [mappingDefects, defectIf_eq_nil]
  exact Option.ne_none_iff_exists'

/-- A projection is refused for the first of its defects. -/
lemma reports_columnsOf (fields : List String) :
    Reports (columnsOf r fields) (selectDefects r (some fields)) := by
  unfold columnsOf selectDefects
  simp only [List.isEmpty_iff]
  exact reports_ite fun _ => (reports_mapM (reports_resolve .select) fields).bind_ok

/-- A key for sorting is refused if its field is not mapped. -/
lemma reports_sortOrderOf (key : SortKey) :
    Reports (sortOrderOf r key) (mappingDefects r .orderBy key.field) :=
  (reports_resolve .orderBy key.field).bind_ok

end Filters

namespace QueryRequest

/-- The defects of a request: those of its window, its filter, its fields to return and its sort
keys. -/
def defects (q : QueryRequest) (r : Resolver) (maxPageSize : UInt32) : List CompilationError :=
  windowDefects maxPageSize q.skip q.top ++ (q.filter.elim [] (Filter.defects r) ++
    (selectDefects r q.select ++ q.orderBy.flatMap fun key =>
      mappingDefects r .orderBy key.field))

/-- Whether a request is well formed: its window is a page, all nodes of its filter are sound, it
selects everything or some mapped fields, and sorts by mapped fields. -/
@[mk_iff]
structure WellFormed (q : QueryRequest) (r : Resolver) (maxPageSize : UInt32) : Prop where
  window : WindowFits maxPageSize q.skip q.top
  filter : ∀ f ∈ q.filter, f.WellFormed r
  select : ∀ fields ∈ q.select, fields ≠ [] ∧
    ∀ field ∈ fields, ∃ name, r.attributeOf? field = some name
  orderBy : ∀ key ∈ q.orderBy, ∃ name, r.attributeOf? key.field = some name

/-- A request with the negations of its filter left out. -/
def withoutNot (q : QueryRequest) : QueryRequest :=
  { q with filter := q.filter.map Filter.withoutNot }

variable {q : QueryRequest} {r : Resolver} {maxPageSize : UInt32}

/-- The well-formed requests are those without defects. -/
lemma defects_eq_nil_iff : q.defects r maxPageSize = [] ↔ q.WellFormed r maxPageSize := by
  have hfilter : q.filter.elim [] (Filter.defects r) = [] ↔ ∀ f ∈ q.filter, f.WellFormed r := by
    cases q.filter <;> simp [Filter.defects_eq_nil_iff]
  have hselect : selectDefects r q.select = [] ↔ ∀ fields ∈ q.select, fields ≠ [] ∧
      ∀ field ∈ fields, ∃ name, r.attributeOf? field = some name := by
    cases q.select <;> simp [selectDefects, mappingDefects_eq_nil_iff]
  have horders : (q.orderBy.flatMap fun key => mappingDefects r .orderBy key.field) = [] ↔
      ∀ key ∈ q.orderBy, ∃ name, r.attributeOf? key.field = some name := by
    simp [mappingDefects_eq_nil_iff]
  simp only [defects, List.append_eq_nil_iff, windowDefects_eq_nil_iff, hfilter, hselect, horders,
    wellFormed_iff]

/-- A request has the same defects without its negations. -/
lemma defects_withoutNot : q.withoutNot.defects r maxPageSize = q.defects r maxPageSize := by
  unfold defects withoutNot
  cases q.filter with
  | none => rfl
  | some f => simp only [Option.map_some, Option.elim_some, Filter.defects_withoutNot]

/-- A request is refused for its first defect. -/
lemma reports_compile (entityName : String) :
    Reports (q.compile r maxPageSize entityName) (q.defects r maxPageSize) := by
  -- the orders close the request, and have no defects behind them
  have hend (f : List SortOrder → NativeQuery) :
      Reports (q.orderBy.mapM (sortOrderOf r) >>= fun orders => .ok (f orders))
        (q.orderBy.flatMap fun key => mappingDefects r .orderBy key.field) :=
    (reports_mapM reports_sortOrderOf q.orderBy).bind_ok
  have hfilter (f : Filter) : Reports (f.toCriteria r) (f.defects r) :=
    (f.reports_toNode false).map CriteriaNode.toCriteria
  unfold compile defects
  refine (reports_pageOf maxPageSize q.skip q.top).bind fun page _ => ?_
  cases q.filter <;> cases q.select
  case none.none => exact hend _
  case none.some fields => exact (reports_columnsOf fields).bind fun _ _ => hend _
  case some.none f => exact (hfilter f).bind fun _ _ => hend _
  case some.some f fields =>
    exact (hfilter f).bind fun _ _ => (reports_columnsOf fields).bind fun _ _ => hend _

/-- **Exactly the well-formed requests compile, and the others are refused for their first defect.**
A request without the negations of its filter is refused for the same defect or not at all. -/
theorem compiles_iff_wellFormed (q : QueryRequest) (r : Resolver) (maxPageSize : UInt32)
    (entityName : String) :
    ((∃ native, q.compile r maxPageSize entityName = .ok native) ↔ q.WellFormed r maxPageSize) ∧
      (∀ e, q.compile r maxPageSize entityName = .error e ↔
        (q.defects r maxPageSize).head? = some e) ∧
      ∀ e, q.compile r maxPageSize entityName = .error e ↔
        q.withoutNot.compile r maxPageSize entityName = .error e := by
  have hreports : Reports (q.compile r maxPageSize entityName) (q.defects r maxPageSize) :=
    reports_compile entityName
  refine ⟨hreports.exists_ok_iff.trans defects_eq_nil_iff, fun e => hreports.eq_error_iff,
    fun e => ?_⟩
  rw [hreports.eq_error_iff, (reports_compile entityName).eq_error_iff, defects_withoutNot]

end QueryRequest

end RecordGateway
