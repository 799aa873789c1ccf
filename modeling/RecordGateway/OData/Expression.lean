import RecordGateway.Filter
import RecordGateway.OData.Literal
import RecordGateway.Text.Blank
import RecordGateway.Text.Reading

/-!
# Filter expressions

The expressions of the `$filter` option and their grammar.  `and` and `or` bind to the right
without precedence, `not` takes everything that follows, and no white space is needed around
keywords.  Of several ways to read a text the first that succeeds is taken and never revised, so
a keyword may swallow the start of a name: `notes` reads as the negation of `es`.
-/

namespace RecordGateway.OData

open Text (Reading)

/-- A filter expression over literals of type `L`. -/
inductive Expression (L : Type) where
  | and (left right : Expression L)
  | or (left right : Expression L)
  | not (inner : Expression L)
  | compare (left : Expression L) (comparison : Comparison) (right : Expression L)
  | oneOf (left : Expression L) (items : List (Expression L))
  | call (name : String) (arguments : List (Expression L))
  | field (name : String)
  | literal (l : L)

namespace Expression

mutual

/-- The expression with its literals, or a wrong literal in it.  Of several the one counts that
comes first when the right side of a comparison and the list of a choice are taken before the
left side, and everything else in the order of the text. -/
def checkLiterals {ε L : Type} : Expression (Except ε L) → Except ε (Expression L)
  | and left right => do return .and (← checkLiterals left) (← checkLiterals right)
  | or left right => do return .or (← checkLiterals left) (← checkLiterals right)
  | not inner => do return .not (← checkLiterals inner)
  | compare left c right => do
    let right ← checkLiterals right
    return .compare (← checkLiterals left) c right
  | oneOf left items => do
    let items ← checkAllLiterals items
    return .oneOf (← checkLiterals left) items
  | call name arguments => do return .call name (← checkAllLiterals arguments)
  | field name => .ok (.field name)
  | literal l => l.map .literal

/-- The expressions with their literals, or a wrong literal in the first expression that has
one. -/
def checkAllLiterals {ε L : Type} : List (Expression (Except ε L)) → Except ε (List (Expression L))
  | [] => .ok []
  | e :: rest => do return (← checkLiterals e) :: (← checkAllLiterals rest)

end

/-- An expression whose literals have the right shape. -/
abbrev Shape := Expression LiteralReading

/-- The white space between the parts of an expression. -/
def isGap (c : Char) : Bool :=
  c == ' ' || c == '\t' || c == '\n' || c == '\r'

/-- The text without the white space at its start. -/
def skipGap (s : List Char) : List Char :=
  s.dropWhile isGap

/-- Skipping a gap makes no text longer. -/
theorem length_skipGap_le (s : List Char) : (skipGap s).length ≤ s.length :=
  (List.dropWhile_sublist isGap).length_le

/-- A character that a name may start with. -/
def isNameStart (c : Char) : Bool :=
  c.isAlpha || c == '_'

/-- Reads a name: a letter or underscore and at least one more letter, digit or underscore. -/
def readName : (s : List Char) → Option (Reading String s)
  | c :: rest =>
    let tail := rest.takeWhile fun c => isNameStart c || Text.isDigit c
    if isNameStart c && tail ≠ [] then
      some ⟨String.ofList (c :: tail), rest.drop tail.length,
        Nat.lt_succ_of_le (List.drop_sublist _ rest).length_le⟩
    else none
  | [] => none

/-- Takes a keyword or a mark. -/
def readWord (word s : List Char) : Option (Reading Unit s) :=
  if word.isPrefixOf s then Reading.ofPair? s ((), s.drop word.length) else none

/-- Reads a comparison. -/
def readComparison (s : List Char) : Option (Reading Comparison s) :=
  [Comparison.eq, .ne, .gt, .ge, .lt, .le].findSome? fun c =>
    (readWord c.text.toList s).map (Reading.map fun _ => c)

/-- Reads a literal or, failing that, a name. -/
def readLiteralOrName (s : List Char) : Option (Reading Shape s) :=
  match (Literal.read? s).bind (Reading.ofPair? s) with
  | some r => some (r.map .literal)
  | none => (readName s).map (Reading.map .field)

mutual

/-- Reads an expression: a negation of all that follows, two expressions joined by a connective,
or an operand. -/
def readExpression (s : List Char) : Option (Reading Shape s) :=
  let joined (left : Reading Shape s) (word : List Char) (join : Shape → Shape → Shape) :
      Option (Reading Shape s) := do
    have := left.shorter
    have := length_skipGap_le left.rest
    let mark ← readWord word (skipGap left.rest)
    have := mark.shorter
    have := length_skipGap_le mark.rest
    let right ← readExpression (skipGap mark.rest)
    have := right.shorter
    some ⟨join left.value right.value, right.rest, by omega⟩
  let negated : Option (Reading Shape s) := do
    let mark ← readWord ['n', 'o', 't'] s
    have := mark.shorter
    have := length_skipGap_le mark.rest
    let inner ← readExpression (skipGap mark.rest)
    have := inner.shorter
    some ⟨.not inner.value, inner.rest, by omega⟩
  negated.orElse fun _ => do
    let left ← readOperand s
    (joined left ['o', 'r'] .or).orElse fun _ =>
      (joined left ['a', 'n', 'd'] .and).orElse fun _ => some left
termination_by 4 * s.length + 2

/-- Reads an operand: an expression in parentheses, or a term with a comparison or a list. -/
def readOperand (s : List Char) : Option (Reading Shape s) :=
  let nested : Option (Reading Shape s) := do
    let opening ← readWord ['('] s
    have := opening.shorter
    have := length_skipGap_le opening.rest
    let inner ← readExpression (skipGap opening.rest)
    have := inner.shorter
    have := length_skipGap_le inner.rest
    let closing ← readWord [')'] (skipGap inner.rest)
    have := closing.shorter
    some ⟨inner.value, closing.rest, by omega⟩
  let compared (left : Reading Shape s) : Option (Reading Shape s) := do
    have := left.shorter
    have := length_skipGap_le left.rest
    let comparison ← readComparison (skipGap left.rest)
    have := comparison.shorter
    have := length_skipGap_le comparison.rest
    let right ← readTerm (skipGap comparison.rest)
    have := right.shorter
    some ⟨.compare left.value comparison.value right.value, right.rest, by omega⟩
  let listed (left : Reading Shape s) : Option (Reading Shape s) := do
    have := left.shorter
    have := length_skipGap_le left.rest
    let mark ← readWord ['i', 'n'] (skipGap left.rest)
    have := mark.shorter
    have := length_skipGap_le mark.rest
    let opening ← readWord ['('] (skipGap mark.rest)
    have := opening.shorter
    let items ← readArguments opening.rest
    have := items.shorter
    some ⟨.oneOf left.value items.value, items.rest, by omega⟩
  nested.orElse fun _ => do
    let left ← readTerm s
    (compared left).orElse fun _ => (listed left).orElse fun _ => some left
termination_by 4 * s.length + 1

/-- Reads a term: a call, a literal or a field. -/
def readTerm (s : List Char) : Option (Reading Shape s) :=
  let called : Option (Reading Shape s) := do
    let name ← readName s
    have := name.shorter
    have := length_skipGap_le name.rest
    let opening ← readWord ['('] (skipGap name.rest)
    have := opening.shorter
    let arguments ← readArguments opening.rest
    have := arguments.shorter
    some ⟨.call name.value arguments.value, arguments.rest, by omega⟩
  called.orElse fun _ => readLiteralOrName s
termination_by 4 * s.length

/-- Reads a list of expressions separated by commas, possibly empty, and the closing
parenthesis. -/
def readArguments (s : List Char) : Option (Reading (List Shape) s) :=
  have := length_skipGap_le s
  match readExpression (skipGap s) with
  | some first => do
    have := first.shorter
    let others ← readFurther first.rest
    have := others.shorter
    some ⟨first.value :: others.value, others.rest, by omega⟩
  | none => do
    let closing ← readWord [')'] (skipGap s)
    have := closing.shorter
    some ⟨[], closing.rest, by omega⟩
termination_by 4 * s.length + 3

/-- Reads the further expressions of a list, each after a comma, and the closing parenthesis. -/
def readFurther (s : List Char) : Option (Reading (List Shape) s) :=
  have := length_skipGap_le s
  let further : Option (Reading (List Shape) s) := do
    let comma ← readWord [','] (skipGap s)
    have := comma.shorter
    have := length_skipGap_le comma.rest
    let item ← readExpression (skipGap comma.rest)
    have := item.shorter
    let others ← readFurther item.rest
    have := others.shorter
    some ⟨item.value :: others.value, others.rest, by omega⟩
  further.orElse fun _ => do
    let closing ← readWord [')'] (skipGap s)
    have := closing.shorter
    some ⟨[], closing.rest, by omega⟩
termination_by 4 * s.length + 3

end

/-- Why a text is no filter expression. -/
inductive SyntaxError where
  /-- The text does not follow the grammar. -/
  | grammar
  /-- The text follows the grammar, but a literal in it is wrong. -/
  | literal (error : LiteralError)
deriving DecidableEq

/-- The error as a sentence. -/
def SyntaxError.message : SyntaxError → String
  | grammar => "Error during general parsing."
  | literal error => error.message

/-- Reads a text that is one filter expression, apart from white space around it. -/
def ofText (s : String) : Except SyntaxError (Expression Literal) :=
  match readExpression (Text.trim s.toList) with
  | some r =>
    if r.rest = [] then r.value.checkLiterals.mapError .literal else .error .grammar
  | none => .error .grammar

end Expression

end RecordGateway.OData
