import Mathlib.Tactic.Lemma
import RecordGateway.Compilation.Basic
import RecordGateway.Mapping.Table

/-!
# De Morgan's laws

Two filters that one of De Morgan's laws makes of each other compile to the same node under both
signs: a negation only turns the sign over, and the connective of a group is turned over where its
members are negated.  What stands around them in a larger filter cannot tell the two apart, so that
a request compiles to the identical native query, or is refused for the identical defect, after one
of the laws has been applied anywhere in its filter (`QueryRequest.compile_fill_of_deMorgan`).

An empty group is refused under its own connective, which is why the law for groups asks for
members.
-/

namespace RecordGateway

namespace Filter

/-- The laws of De Morgan, from left to right. -/
inductive DeMorgan : Filter → Filter → Prop
  /-- Two negations cancel. -/
  | notNot (f : Filter) : DeMorgan (.not (.not f)) f
  /-- A negated group is the group of the negated members under the other connective. -/
  | notGroup (connective : Connective) {members : List Filter} (members_ne : members ≠ []) :
    DeMorgan (.not (.group connective members)) (.group connective.flip (members.map .not))

/-- A filter with a hole at one position. -/
inductive Context where
  | hole
  | not (inner : Context)
  /-- A member of a group, between the members before and after it. -/
  | member (connective : Connective) (before : List Filter) (inner : Context)
    (after : List Filter)

/-- The filter with the hole filled. -/
def Context.fill : Context → Filter → Filter
  | hole, f => f
  | not inner, f => .not (inner.fill f)
  | member connective before inner after, f =>
    .group connective (before ++ inner.fill f :: after)

/-! ### Filters that compile alike -/

/-- Whether two filters compile to the same node under both signs, or fail in the same way. -/
def CompileAlike (r : Resolver) (f g : Filter) : Prop :=
  ∀ negate, toNode r negate f = toNode r negate g

variable {r : Resolver} {f g : Filter}

/-- Negated filters compile like the filters under the opposite sign. -/
lemma toNodes_map_not (negate : Bool) (fs : List Filter) :
    toNodes r negate (fs.map .not) = toNodes r (!negate) fs := by
  induction fs with
  | nil => rfl
  | cons f fs ih => rw [List.map_cons, toNodes, toNodes, toNode, ih]

/-- Both sides of a law compile alike. -/
lemma DeMorgan.compileAlike (h : DeMorgan f g) : CompileAlike r f g := by
  intro negate
  cases h with
  | notNot f => rw [toNode, toNode, Bool.not_not]
  | @notGroup connective members hne =>
    have hmembers : members.isEmpty = false := by simpa using hne
    have hnegated : (members.map Filter.not).isEmpty = false := by simpa using hne
    simp only [toNode, hmembers, hnegated, toNodes_map_not, Bool.false_eq_true, if_false]
    -- under a negation one side never turns the connective over, and the other does so twice
    cases negate <;> simp

/-- Lists of filters with one member exchanged compile alike. -/
lemma CompileAlike.toNodes_append (h : CompileAlike r f g) (negate : Bool)
    (before after : List Filter) :
    toNodes r negate (before ++ f :: after) = toNodes r negate (before ++ g :: after) := by
  induction before with
  | nil => rw [List.nil_append, List.nil_append, toNodes, toNodes, h negate]
  | cons first before ih => rw [List.cons_append, List.cons_append, toNodes, toNodes, ih]

/-- Filters that compile alike do so wherever they stand. -/
theorem CompileAlike.fill (h : CompileAlike r f g) (context : Context) :
    CompileAlike r (context.fill f) (context.fill g) := by
  induction context with
  | hole => exact h
  | not inner ih =>
    intro negate
    rw [Context.fill, Context.fill, toNode, toNode, ih]
  | member connective before inner after ih =>
    intro negate
    rw [Context.fill, Context.fill, toNode, toNode, ih.toNodes_append negate before after]
    simp

end Filter

/-! ### Requests -/

namespace QueryRequest

variable {f g : Filter}

/-- Requests whose filters compile alike compile alike. -/
lemma compile_congr {r : Resolver} (h : Filter.CompileAlike r f g) (q : QueryRequest)
    (maxPageSize : UInt32) (entityName : String) :
    { q with filter := some f }.compile r maxPageSize entityName =
      { q with filter := some g }.compile r maxPageSize entityName := by
  have hcriteria : f.toCriteria r = g.toCriteria r := congrArg (Except.map _) (h false)
  unfold compile
  simp only [hcriteria]

/-- **De Morgan's laws leave no trace in a native query.**  If one of them is applied at any
position of a filter, a request with this filter compiles to the identical native query, or is
refused for the identical defect. -/
theorem compile_fill_of_deMorgan (h : Filter.DeMorgan f g) (context : Filter.Context)
    (q : QueryRequest) (r : Resolver) (maxPageSize : UInt32) (entityName : String) :
    { q with filter := some (context.fill f) }.compile r maxPageSize entityName =
      { q with filter := some (context.fill g) }.compile r maxPageSize entityName :=
  compile_congr (h.compileAlike.fill context) q maxPageSize entityName

/-- An empty group is refused under its own connective, so that the law for groups fails for it. -/
example (r : Resolver) : (Filter.not (.group .and [])).toCriteria r = .error (.emptyGroup .and) ∧
    (Filter.group .or []).toCriteria r = .error (.emptyGroup .or) :=
  ⟨rfl, rfl⟩

/-- Inside of a negated conjunction, those who are neither young nor from Oslo are asked for in two
ways that compile to one native query. -/
theorem compile_fill_strangers :
    let young := Filter.compare "age" .lt (.int 18)
    let home := Filter.compare "city" .eq (.string "Oslo")
    let context := Filter.Context.not (.member .and [.compare "age" .ne .null] .hole [])
    let r := Resolver.ofTable [("age", "years"), ("city", "town")] []
    { all with filter := some (context.fill (.not (.group .or [young, home]))) }.compile r 100
        "person" =
      { all with filter := some (context.fill (.group .and [.not young, .not home])) }.compile r
        100 "person" ∧
    { all with filter := some (context.fill (.not (.group .or [young, home]))) }.compile r 100
        "person" = .ok {
      entityName := "person"
      criteria := ⟨.or, [⟨"years", .isNull, []⟩], [⟨.or, [⟨"years", .lessThan, [.int 18]⟩,
        ⟨"town", .equal, [.string "Oslo"]⟩], []⟩]⟩
      columns := .all
      orders := []
      page := none } :=
  ⟨compile_fill_of_deMorgan (.notGroup .or (List.cons_ne_nil _ _)) _ _ _ _ _, rfl⟩

end QueryRequest

end RecordGateway
