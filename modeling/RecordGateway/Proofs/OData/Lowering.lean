import RecordGateway.OData.Lowering
import RecordGateway.Proofs.Compilation.Success
import RecordGateway.Proofs.Filter.Meaning
import RecordGateway.Proofs.OData.Numbers
import RecordGateway.Proofs.Value.Order

/-!
# Lowering keeps the meaning

An expression has a meaning of its own: the outcome, on the attributes of a record, of each
predicate with its operands on the sides where they stand, and of the connectives between them.  The
filter that an expression is lowered to has the same outcome on all attributes and joins its leaves
in the same way.  An expression is lowered if and only if it is built of supported predicates.

A comparison with the literal on the left becomes one with the literal on the right.  Since the
order of values swaps with their sides, the comparison has to be mirrored then, not negated.
-/

namespace RecordGateway.OData

/-! ### Literals -/

namespace Literal

/-- Whether a literal can stand in a filter. -/
def Supported : Literal → Prop
  | null | bool _ | uuid _ | instant _ | date _ | string _ => True
  | number n => n.Representable
  | time _ _ => False

/-- The value that a literal denotes. -/
def value? : Literal → Option Value
  | null => some .null
  | bool b => some (.bool b)
  | number n => n.toValue?
  | uuid u => some (.uuid u)
  | instant i => some (.instant i)
  | date d => some (.date d)
  | time _ _ => none
  | string s => some (.string s)

/-- A literal is lowered to the value that it has. -/
lemma lower_eq_ok {l : Literal} {value : Value} : l.lower = .ok value ↔ l.value? = some value := by
  cases l with
  | number n => cases hn : n.toValue? <;> simp [lower, value?, hn]
  | _ => simp [lower, value?]

/-- A supported literal denotes a value. -/
lemma exists_value?_iff {l : Literal} : (∃ value, l.value? = some value) ↔ l.Supported := by
  cases l with
  | number n => exact n.exists_toValue?_iff_representable
  | _ => simp [value?, Supported]

/-- Supported literals denote values. -/
lemma exists_values_iff {literals : List Literal} :
    (∃ values, List.Forall₂ (fun l value => l.value? = some value) literals values) ↔
      ∀ l ∈ literals, l.Supported := by
  induction literals with
  | nil => exact iff_of_true ⟨[], .nil⟩ fun l hl => absurd hl List.not_mem_nil
  | cons l literals ih =>
    rw [List.forall_mem_cons, ← ih, ← exists_value?_iff]
    constructor
    · rintro ⟨_, hvalues⟩
      cases hvalues with
      | cons hvalue hvalues => exact ⟨⟨_, hvalue⟩, ⟨_, hvalues⟩⟩
    · rintro ⟨⟨value, hvalue⟩, ⟨values, hvalues⟩⟩
      exact ⟨value :: values, .cons hvalue hvalues⟩

end Literal

/-! ### The meaning of expressions -/

section Meaning

variable (r : Resolver) (as : Attributes)

/-- The outcome of a comparison of an attribute with a literal: two-valued for null, and otherwise
by the order that `order` gives to the attribute and the literal as it is stored. -/
def comparisonOutcome (comparison : Comparison) (order : Value → Value → Option Ordering)
    (field : String) (l : Literal) : Truth :=
  match l.value? with
  | none => .unknown
  | some value => fieldOutcome r field fun name =>
    if value.isNull then nullOutcome (as.get? name) comparison
    else convertedOutcome r name (fun literal => .ofOption
      (((as.get? name).bind fun stored => order stored literal).map comparison.holds)) value

/-- The outcome of a comparison, whose operands compare as they stand. -/
def compareOutcome (left : Expression Literal) (comparison : Comparison)
    (right : Expression Literal) : Truth :=
  match left, right with
  | .field field, .literal l =>
    comparisonOutcome r as comparison (fun stored literal => stored.compare? literal) field l
  | .literal l, .field field =>
    comparisonOutcome r as comparison (fun stored literal => literal.compare? stored) field l
  | _, _ => .unknown

/-- The outcome of an equality of an attribute with an item of a list. -/
def itemOutcome (name : String) : Expression Literal → Truth
  | .literal l => match l.value? with
    | some value => convertedOutcome r name (orderOutcome .eq (as.get? name)) value
    | none => .unknown
  | _ => .unknown

/-- The outcome of a membership: whether the attribute equals one of the items. -/
def memberOutcome (left : Expression Literal) (items : List (Expression Literal)) : Truth :=
  match left with
  | .field field => fieldOutcome r field fun name => .any (items.map (itemOutcome r as name))
  | _ => .unknown

/-- The outcome of a call of one of the three functions on text. -/
def callOutcome (function : String) (arguments : List (Expression Literal)) : Truth :=
  match TextTest.ofText? function, arguments with
  | some test, [.field field, .literal (.string operand)] => fieldOutcome r field fun name =>
    convertedOutcome r name (textOutcome test (as.get? name)) (.string operand)
  | _, _ => .unknown

/-- The outcome of an expression on some attributes; what is no predicate has none. -/
def Expression.outcome : Expression Literal → Truth
  | and left right => (outcome left).and (outcome right)
  | or left right => (outcome left).or (outcome right)
  | not inner => (outcome inner).not
  | compare left comparison right => compareOutcome r as left comparison right
  | oneOf left items => memberOutcome r as left items
  | call function arguments => callOutcome r as function arguments
  | field _ | literal _ => .unknown

end Meaning

/-! ### What is lowered -/

/-- Whether all predicates of an expression are supported: comparisons of a field with a supported
literal in either order, memberships of a field in a list of supported literals, and tests of the
text in a field against a string. -/
inductive Expression.Supported : Expression Literal → Prop
  | and {left right : Expression Literal} :
      Supported left → Supported right → Supported (.and left right)
  | or {left right : Expression Literal} :
      Supported left → Supported right → Supported (.or left right)
  | not {inner : Expression Literal} : Supported inner → Supported (.not inner)
  | fieldFirst (field : String) (comparison : Comparison) {l : Literal} :
      l.Supported → Supported (.compare (.field field) comparison (.literal l))
  | literalFirst (field : String) (comparison : Comparison) {l : Literal} :
      l.Supported → Supported (.compare (.literal l) comparison (.field field))
  | oneOf (field : String) {literals : List Literal} :
      (∀ l ∈ literals, l.Supported) → Supported (.oneOf (.field field) (literals.map .literal))
  | call (test : TextTest) (field operand : String) :
      Supported (.call test.text [.field field, .literal (.string operand)])

/-- Whether a filter has the connectives and negations of an expression, each in its place, and a
leaf for each predicate. -/
inductive SameNesting : Expression Literal → Filter → Prop
  | and {left right : Expression Literal} {f g : Filter} :
      SameNesting left f → SameNesting right g → SameNesting (.and left right) (.group .and [f, g])
  | or {left right : Expression Literal} {f g : Filter} :
      SameNesting left f → SameNesting right g → SameNesting (.or left right) (.group .or [f, g])
  | not {inner : Expression Literal} {f : Filter} :
      SameNesting inner f → SameNesting (.not inner) (.not f)
  | compare {left right : Expression Literal} {c c' : Comparison} {field : String}
      {literal : Value} : SameNesting (.compare left c right) (.compare field c' literal)
  | oneOf {left : Expression Literal} {items : List (Expression Literal)} {field : String}
      {literals : List Value} : SameNesting (.oneOf left items) (.oneOf field literals)
  | call {function : String} {arguments : List (Expression Literal)} {test : TextTest}
      {field operand : String} :
      SameNesting (.call function arguments) (.textTest test field operand)

/-- The filter of an expression, construct by construct. -/
inductive Lowers : Expression Literal → Filter → Prop
  | and {left right : Expression Literal} {f g : Filter} :
      Lowers left f → Lowers right g → Lowers (.and left right) (.group .and [f, g])
  | or {left right : Expression Literal} {f g : Filter} :
      Lowers left f → Lowers right g → Lowers (.or left right) (.group .or [f, g])
  | not {inner : Expression Literal} {f : Filter} : Lowers inner f → Lowers (.not inner) (.not f)
  | fieldFirst {field : String} {comparison : Comparison} {l : Literal} {value : Value} :
      l.value? = some value → Lowers (.compare (.field field) comparison (.literal l))
        (.compare field comparison value)
  | literalFirst {field : String} {comparison : Comparison} {l : Literal} {value : Value} :
      l.value? = some value → Lowers (.compare (.literal l) comparison (.field field))
        (.compare field comparison.mirrored value)
  | oneOf {field : String} {literals : List Literal} {values : List Value} :
      List.Forall₂ (fun l value => l.value? = some value) literals values →
        Lowers (.oneOf (.field field) (literals.map .literal)) (.oneOf field values)
  | call {test : TextTest} {field operand : String} :
      Lowers (.call test.text [.field field, .literal (.string operand)])
        (.textTest test field operand)

/-! ### Lowering construct by construct -/

/-- A function is a test of text if it has its name. -/
lemma ofText?_eq_some {function : String} {test : TextTest} :
    TextTest.ofText? function = some test ↔ function = test.text := by
  constructor
  · intro h
    unfold TextTest.ofText? at h
    split at h <;> cases h <;> rfl
  · rintro rfl
    cases test <;> rfl

/-- A comparison is lowered with its literal on the right. -/
lemma lowers_of_lowerCompare {left right : Expression Literal} {comparison : Comparison}
    {f : Filter} (h : Expression.lowerCompare left comparison right = .ok f) :
    Lowers (.compare left comparison right) f := by
  unfold Expression.lowerCompare at h
  split at h
  · obtain ⟨value, hvalue, h⟩ := bind_eq_ok.mp h
    cases h
    exact .fieldFirst (Literal.lower_eq_ok.mp hvalue)
  · obtain ⟨value, hvalue, h⟩ := bind_eq_ok.mp h
    cases h
    exact .literalFirst (Literal.lower_eq_ok.mp hvalue)
  · cases h

/-- The items of a list are lowered if they are literals that denote values. -/
lemma lowerItem_eq_ok {field : String} {item : Expression Literal} {value : Value} :
    Expression.lowerItem field item = .ok value ↔
      ∃ l : Literal, item = .literal l ∧ l.value? = some value := by
  cases item with
  | literal l => simp [Expression.lowerItem, Literal.lower_eq_ok]
  | _ => simp [Expression.lowerItem]

/-- Items that are lowered to some values are literals that denote these. -/
lemma exists_literals {field : String} {items : List (Expression Literal)} {values : List Value}
    (h : items.mapM (Expression.lowerItem field) = .ok values) :
    ∃ literals : List Literal, items = literals.map .literal ∧
      List.Forall₂ (fun l value => l.value? = some value) literals values := by
  rw [mapM_eq_ok] at h
  induction h with
  | nil => exact ⟨[], rfl, .nil⟩
  | cons hitem _ ih =>
    obtain ⟨l, rfl, hvalue⟩ := lowerItem_eq_ok.mp hitem
    obtain ⟨literals, rfl, hvalues⟩ := ih
    exact ⟨l :: literals, rfl, .cons hvalue hvalues⟩

/-- A membership is lowered with the values of its items. -/
lemma lowers_of_lowerList {left : Expression Literal} {items : List (Expression Literal)}
    {f : Filter} (h : Expression.lowerList left items = .ok f) : Lowers (.oneOf left items) f := by
  unfold Expression.lowerList at h
  split at h
  · obtain ⟨values, hitems, h⟩ := bind_eq_ok.mp h
    cases h
    obtain ⟨literals, rfl, hvalues⟩ := exists_literals hitems
    exact .oneOf hvalues
  · cases h

/-- A call is lowered if it tests the text in a field against a string. -/
lemma lowers_of_lowerCall {function : String} {arguments : List (Expression Literal)} {f : Filter}
    (h : Expression.lowerCall function arguments = .ok f) :
    Lowers (.call function arguments) f := by
  unfold Expression.lowerCall at h
  split at h
  · cases h
  case h_2 test htest =>
    split at h
    · cases h
      rw [ofText?_eq_some.mp htest]
      exact .call
    · cases h

/-- What an expression is lowered to is its filter construct by construct. -/
theorem lowers_of_lower : ∀ (e : Expression Literal) {f : Filter}, e.lower = .ok f → Lowers e f
  | .and left right, f, h => by
    obtain ⟨g, hg, h⟩ := bind_eq_ok.mp h
    obtain ⟨g', hg', h⟩ := bind_eq_ok.mp h
    cases h
    exact .and (lowers_of_lower left hg) (lowers_of_lower right hg')
  | .or left right, f, h => by
    obtain ⟨g, hg, h⟩ := bind_eq_ok.mp h
    obtain ⟨g', hg', h⟩ := bind_eq_ok.mp h
    cases h
    exact .or (lowers_of_lower left hg) (lowers_of_lower right hg')
  | .not inner, f, h => by
    obtain ⟨g, hg, h⟩ := bind_eq_ok.mp h
    cases h
    exact .not (lowers_of_lower inner hg)
  | .compare _ _ _, _, h => lowers_of_lowerCompare h
  | .oneOf _ _, _, h => lowers_of_lowerList h
  | .call _ _, _, h => lowers_of_lowerCall h
  | .field _, _, h => nomatch h
  | .literal _, _, h => nomatch h

namespace Lowers

variable {e : Expression Literal} {f : Filter}

/-- An expression with a filter construct by construct is lowered to it. -/
theorem lower_eq_ok (h : Lowers e f) : e.lower = .ok f := by
  induction h with
  | and _ _ ihl ihr => exact bind_eq_ok.mpr ⟨_, ihl, bind_eq_ok.mpr ⟨_, ihr, rfl⟩⟩
  | or _ _ ihl ihr => exact bind_eq_ok.mpr ⟨_, ihl, bind_eq_ok.mpr ⟨_, ihr, rfl⟩⟩
  | not _ ih => exact bind_eq_ok.mpr ⟨_, ih, rfl⟩
  | fieldFirst hvalue => exact bind_eq_ok.mpr ⟨_, Literal.lower_eq_ok.mpr hvalue, rfl⟩
  | literalFirst hvalue => exact bind_eq_ok.mpr ⟨_, Literal.lower_eq_ok.mpr hvalue, rfl⟩
  | oneOf hvalues =>
    refine bind_eq_ok.mpr ⟨_, mapM_eq_ok.mpr (List.forall₂_map_left_iff.mpr ?_), rfl⟩
    exact hvalues.imp fun l value hvalue => lowerItem_eq_ok.mpr ⟨l, rfl, hvalue⟩
  | @call test field operand =>
    rw [Expression.lower, Expression.lowerCall, ofText?_eq_some.mpr rfl]

/-- The filter joins its leaves in the way the expression does. -/
theorem sameNesting (h : Lowers e f) : SameNesting e f := by
  induction h with
  | and _ _ ihl ihr => exact .and ihl ihr
  | or _ _ ihl ihr => exact .or ihl ihr
  | not _ ih => exact .not ih
  | fieldFirst _ => exact .compare
  | literalFirst _ => exact .compare
  | oneOf _ => exact .oneOf
  | call => exact .call

/-- What is lowered is supported. -/
theorem supported (h : Lowers e f) : e.Supported := by
  induction h with
  | and _ _ ihl ihr => exact .and ihl ihr
  | or _ _ ihl ihr => exact .or ihl ihr
  | not _ ih => exact .not ih
  | fieldFirst hvalue => exact .fieldFirst _ _ (Literal.exists_value?_iff.mp ⟨_, hvalue⟩)
  | literalFirst hvalue => exact .literalFirst _ _ (Literal.exists_value?_iff.mp ⟨_, hvalue⟩)
  | oneOf hvalues => exact .oneOf _ (Literal.exists_values_iff.mp ⟨_, hvalues⟩)
  | call => exact .call _ _ _

end Lowers

/-- What is supported is lowered. -/
theorem exists_lowers {e : Expression Literal} (h : e.Supported) : ∃ f, Lowers e f := by
  induction h with
  | and _ _ ihl ihr =>
    obtain ⟨f, hf⟩ := ihl
    obtain ⟨g, hg⟩ := ihr
    exact ⟨_, .and hf hg⟩
  | or _ _ ihl ihr =>
    obtain ⟨f, hf⟩ := ihl
    obtain ⟨g, hg⟩ := ihr
    exact ⟨_, .or hf hg⟩
  | not _ ih =>
    obtain ⟨f, hf⟩ := ih
    exact ⟨_, .not hf⟩
  | fieldFirst field comparison hl =>
    obtain ⟨value, hvalue⟩ := Literal.exists_value?_iff.mpr hl
    exact ⟨_, .fieldFirst hvalue⟩
  | literalFirst field comparison hl =>
    obtain ⟨value, hvalue⟩ := Literal.exists_value?_iff.mpr hl
    exact ⟨_, .literalFirst hvalue⟩
  | oneOf field hliterals =>
    obtain ⟨values, hvalues⟩ := Literal.exists_values_iff.mpr hliterals
    exact ⟨_, .oneOf hvalues⟩
  | call => exact ⟨_, .call⟩

/-! ### Outcomes -/

/-- A comparison holds when it is mirrored and the operands change sides. -/
lemma holds_mirrored (comparison : Comparison) (order : Ordering) :
    comparison.mirrored.holds order = comparison.holds order.swap := by
  cases comparison <;> cases order <;> rfl

/-- Null is on no side of a comparison with null. -/
lemma nullOutcome_mirrored (stored : Option Value) (comparison : Comparison) :
    nullOutcome stored comparison.mirrored = nullOutcome stored comparison := by
  cases comparison <;> rfl

/-- An attribute is compared with a value by their order. -/
lemma orderOutcome_eq (comparison : Comparison) (stored : Option Value) (value : Value) :
    orderOutcome comparison stored value =
      .ofOption ((stored.bind fun actual => actual.compare? value).map comparison.holds) := by
  cases stored with
  | none => rfl
  | some actual =>
    rw [Option.bind_some]
    cases actual with
    | null => cases value <;> rfl
    | _ =>
      unfold orderOutcome
      dsimp only
      split <;> rename_i horder <;> rw [horder] <;> rfl

/-- A value is compared with an attribute by the mirrored comparison of the attribute with it. -/
lemma orderOutcome_mirrored (comparison : Comparison) (stored : Option Value) (value : Value) :
    orderOutcome comparison.mirrored stored value =
      .ofOption ((stored.bind fun actual => value.compare? actual).map comparison.holds) := by
  rw [orderOutcome_eq]
  cases stored with
  | none => rfl
  | some actual =>
    rw [Option.bind_some, Option.bind_some, Value.compare?_swap actual value]
    cases actual.compare? value with
    | none => rfl
    | some order => rw [Option.map_some, Option.map_some, Option.map_some, holds_mirrored]

section Outcomes

variable {r : Resolver} {as : Attributes} {field : String}

/-- A comparison with a literal has the outcome of a comparison with its value that agrees with it
on null and on the order. -/
lemma outcome_compare {l : Literal} {value : Value} {c c' : Comparison}
    {order : Value → Value → Option Ordering} (hvalue : l.value? = some value)
    (hnull : ∀ stored, nullOutcome stored c' = nullOutcome stored c)
    (horder : ∀ stored literal, orderOutcome c' stored literal =
      .ofOption ((stored.bind fun actual => order actual literal).map c.holds)) :
    (Filter.compare field c' value).outcome r as = comparisonOutcome r as c order field l := by
  rw [Filter.outcome, comparisonOutcome, hvalue]
  refine congrArg (fieldOutcome r field) (funext fun name => ?_)
  rw [hnull, funext (horder (as.get? name))]

/-- The items of a list have the outcomes of the equalities with their values. -/
lemma map_itemOutcome {name : String} {literals : List Literal} {values : List Value}
    (h : List.Forall₂ (fun l value => l.value? = some value) literals values) :
    (literals.map Expression.literal).map (itemOutcome r as name) =
      values.map (convertedOutcome r name (orderOutcome .eq (as.get? name))) := by
  induction h with
  | nil => rfl
  | cons hvalue _ ih =>
    rw [List.map_cons, List.map_cons, List.map_cons, ih, itemOutcome, hvalue]

end Outcomes

namespace Lowers

variable {e : Expression Literal} {f : Filter}

/-- The filter of an expression has the outcome of the expression on all attributes. -/
theorem outcome_eq (h : Lowers e f) (r : Resolver) (as : Attributes) :
    f.outcome r as = e.outcome r as := by
  induction h with
  | and _ _ ihl ihr =>
    rw [Filter.outcome, Filter.outcomes_eq_map, Expression.outcome, ← ihl, ← ihr]
    exact Truth.join_and_pair _ _
  | or _ _ ihl ihr =>
    rw [Filter.outcome, Filter.outcomes_eq_map, Expression.outcome, ← ihl, ← ihr]
    exact Truth.join_or_pair _ _
  | not _ ih => rw [Filter.outcome, Expression.outcome, ih]
  | @fieldFirst field comparison l value hvalue =>
    exact outcome_compare hvalue (fun _ => rfl) (orderOutcome_eq comparison)
  | @literalFirst field comparison l value hvalue =>
    exact outcome_compare hvalue (fun stored => nullOutcome_mirrored stored comparison)
      (orderOutcome_mirrored comparison)
  | oneOf hvalues =>
    rw [Filter.outcome, Expression.outcome, memberOutcome]
    refine congrArg (fieldOutcome r _) (funext fun name => ?_)
    rw [map_itemOutcome hvalues]
  | @call test field operand =>
    rw [Filter.outcome, Expression.outcome]
    unfold callOutcome
    rw [ofText?_eq_some.mpr rfl]

end Lowers

/-- What lowering does to an expression. -/
structure LowersFaithfully (e : Expression Literal) : Prop where
  /-- The expression is lowered if and only if it is built of supported predicates. -/
  accepted_iff : (∃ f, e.lower = .ok f) ↔ e.Supported
  /-- Its connectives and negations are kept one to one. -/
  nesting : ∀ f, e.lower = .ok f → SameNesting e f
  /-- The filter has the outcome of the expression, whatever stands behind the fields. -/
  outcome_eq : ∀ f, e.lower = .ok f → ∀ r as, f.outcome r as = e.outcome r as

/-- **Lowering keeps the meaning.**  Of all expressions precisely the supported ones are lowered,
to filters that join their leaves in the same way and have the same outcomes on all attributes. -/
theorem Expression.lowersFaithfully (e : Expression Literal) : LowersFaithfully e where
  accepted_iff := by
    constructor
    · rintro ⟨f, hf⟩
      exact (lowers_of_lower e hf).supported
    · intro h
      obtain ⟨f, hf⟩ := exists_lowers h
      exact ⟨f, hf.lower_eq_ok⟩
  nesting _ hf := (lowers_of_lower e hf).sameNesting
  outcome_eq _ hf := (lowers_of_lower e hf).outcome_eq

/-- With the literal on the left, `5 lt age` is lowered to `age gt 5`. -/
example : (Expression.compare (.literal (.number ⟨5, 0⟩)) .lt (.field "age")).lower =
    .ok (.compare "age" .gt (.int 5)) := rfl

end RecordGateway.OData
