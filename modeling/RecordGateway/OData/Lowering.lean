import RecordGateway.OData.Expression

/-!
# Lowering expressions

An expression is a filter when every part of it that should be a condition is one: a comparison
of a field with a literal, in either order; membership of a field in a list of literals; one of
three functions applied to a field and a string; or a combination of such conditions.
-/

namespace RecordGateway.OData

/-- Why query options are refused. -/
inductive OptionError where
  | filter (reason : String)
  | unsupportedFunction (name : String)
  | unsupportedLiteral (text : String)
  | orderBy (reason : String)
deriving DecidableEq

/-- The error as a sentence. -/
def OptionError.message : OptionError → String
  | filter reason => "invalid $filter: " ++ reason
  | unsupportedFunction name => "unsupported function '" ++ name ++ "' in $filter"
  | unsupportedLiteral text => "unsupported literal in $filter: " ++ text
  | orderBy reason => "invalid $orderby: " ++ reason

/-- The value of a literal; times of day have none. -/
def Literal.lower : Literal → Except OptionError Value
  | null => .ok .null
  | bool b => .ok (.bool b)
  | number n => match n.toValue? with
    | some v => .ok v
    | none => .error (.unsupportedLiteral n.toText)
  | uuid u => .ok (.uuid u)
  | instant i => .ok (.instant i)
  | date d => .ok (.date d)
  | time _ _ => .error (.unsupportedLiteral "time-of-day literals are not supported")
  | string s => .ok (.string s)

namespace Expression

/-- The condition of a comparison. -/
def lowerCompare (left : Expression Literal) (comparison : Comparison)
    (right : Expression Literal) : Except OptionError Filter :=
  match left, right with
  | field name, literal l => do return .compare name comparison (← l.lower)
  | literal l, field name => do return .compare name comparison.mirrored (← l.lower)
  | _, _ => .error (.filter s!"'{comparison.text}' must compare a field with a literal")

/-- The literal of an item in a list. -/
def lowerItem (name : String) : Expression Literal → Except OptionError Value
  | literal l => l.lower
  | _ => .error (.filter s!"'in' list for '{name}' must contain only literals")

/-- The condition of a membership. -/
def lowerList (left : Expression Literal) (items : List (Expression Literal)) :
    Except OptionError Filter :=
  match left with
  | field name => do return .oneOf name (← items.mapM (lowerItem name))
  | _ => .error (.filter "left side of 'in' must be a field")

/-- The condition of a function call. -/
def lowerCall (name : String) (arguments : List (Expression Literal)) :
    Except OptionError Filter :=
  match TextTest.ofText? name with
  | none => .error (.unsupportedFunction name)
  | some test => match arguments with
    | [field f, literal (.string s)] => .ok (.textTest test f s)
    | _ => .error (.filter s!"{test.text}() expects a field and a string literal")

/-- The filter of an expression. -/
def lower : Expression Literal → Except OptionError Filter
  | and left right => do
    let left ← lower left
    let right ← lower right
    return .group .and [left, right]
  | or left right => do
    let left ← lower left
    let right ← lower right
    return .group .or [left, right]
  | not inner => do return .not (← lower inner)
  | compare left comparison right => lowerCompare left comparison right
  | oneOf left items => lowerList left items
  | call name arguments => lowerCall name arguments
  | field name => .error (.filter s!"'{name}' is not a predicate")
  | literal _ => .error (.filter "a bare literal is not a predicate")

end Expression

/-- The filter that a text denotes. -/
def filterOfText (text : String) : Except OptionError Filter :=
  match Expression.ofText text with
  | .ok e => e.lower
  | .error e => .error (.filter e.message)

end RecordGateway.OData
