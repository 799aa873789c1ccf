import RecordGateway.Decimal.Shortest
import RecordGateway.Json.Reader

/-!
# Values of scalars

A plain scalar is a null, a truth value, a number or a string, whichever its text looks like first;
a quoted one is a string.  A tag can ask for one of these types.  Integers have at most 128 bits and
other numbers are finite binary floating point numbers; what is larger is a string.
-/

namespace RecordGateway.Document

/-! ### Numbers -/

/-- A number without its sign, and whether there was a minus sign. -/
def splitSign : List Char → Bool × List Char
  | '-' :: rest => (true, rest)
  | '+' :: rest => (false, rest)
  | cs => (false, cs)

/-- Whether digits start with a zero that decimal numbers do not have. -/
def hasIdleZero (digits : List Char) : Bool :=
  1 < digits.length && digits.head? == some '0' && digits.all Text.isDigit

/-- The value of digits of a base below ten. -/
def naturalBelowTen? (base : Nat) (digits : List Char) : Option Nat :=
  if digits = [] then none
  else Text.valueFrom (fun c => (Text.digit? c).filter (· < base)) base 0 digits

/-- The number of an unsigned scalar: hexadecimal, octal or binary after a mark, or decimal. -/
def unsigned? : List Char → Option Nat
  | '0' :: 'x' :: digits => Text.hexNatural? digits
  | '0' :: 'o' :: digits => naturalBelowTen? 8 digits
  | '0' :: 'b' :: digits => naturalBelowTen? 2 digits
  | digits => if hasIdleZero digits then none else Text.natural? digits

/-- The integer of a scalar, which has to fit into 128 bits with or without a sign. -/
def integer? (cs : List Char) : Option Int := do
  let (negative, body) := splitSign cs
  let n ← unsigned? body
  if negative then if n ≤ Nat.pow 2 127 then some (-(n : Int)) else none
  else if n < Nat.pow 2 128 then some n else none

/-- Whether `digits * 10 ^ exponent` rounds to a finite binary floating point number. -/
def isFinite (digits : List Char) (exponent : Int) : Bool :=
  let n := (Text.natural? digits).getD 0
  let bound := Nat.pow 2 1024 - Nat.pow 2 970
  if n = 0 then true
  else match exponent with
    | .ofNat k => if 308 < k then false else n * Nat.pow 10 k < bound
    | .negSucc k => if digits.length ≤ 308 + k then true else n < bound * Nat.pow 10 (k + 1)

/-- Whether a scalar is a finite number with a fraction or an exponent. -/
def isFloat (cs : List Char) : Bool :=
  let body := (splitSign cs).2
  let whole := body.takeWhile Text.isDigit
  let rest := body.dropWhile Text.isDigit
  let (fraction, rest) := match rest with
    | '.' :: digits => (digits.takeWhile Text.isDigit, digits.dropWhile Text.isDigit)
    | _ => ([], rest)
  let exponent := (Text.integer? (rest.drop 1)).getD 0
  (!whole.isEmpty || !fraction.isEmpty) && Json.isExponent rest &&
    isFinite (whole ++ fraction) (exponent - fraction.length)

/-- Whether a scalar names a number that is not finite. -/
def isNonFinite (cs : List Char) : Bool :=
  [".inf", ".Inf", ".INF", "+.inf", "+.Inf", "+.INF", "-.inf", "-.Inf", "-.INF", ".nan", ".NaN",
    ".NAN"].contains (String.ofList cs)

/-- The number of a scalar with or without a fraction, which does not count as an integer. -/
def float? (cs : List Char) : Option Json :=
  if isFloat cs || isNonFinite cs then
    let marks := if cs.any ".eE".toList.contains then [] else ".0".toList
    some (.number (String.ofList (cs ++ marks)))
  else none

/-! ### Other types -/

/-- The truth value of a scalar. -/
def truth? (cs : List Char) : Option Bool :=
  let text := String.ofList cs
  if ["true", "True", "TRUE"].contains text then some true
  else if ["false", "False", "FALSE"].contains text then some false
  else none

/-- Whether a scalar names nothing. -/
def namesNull (cs : List Char) : Bool :=
  ["~", "null", "Null", "NULL"].contains (String.ofList cs)

/-- The value of a plain scalar. -/
def plainValue (cs : List Char) : Json :=
  if cs = [] || namesNull cs then .null
  else match truth? cs, integer? cs with
    | some b, _ => .bool b
    | none, some n => .ofInt n
    | none, none =>
      if hasIdleZero (splitSign cs).2 then .string (String.ofList cs)
      else (float? cs).getD (.string (String.ofList cs))

/-! ### Tags -/

/-- What the tags of the types start with. -/
def typeStem : List Char := "tag:yaml.org,2002:".toList

/-- The value of a scalar with a tag.  Only tags of types are known; a tag with an exclamation mark
in front is refused, and any other one makes a string. -/
def taggedValue? (tag cs : List Char) : Option Json :=
  if tag.head? = some '!' then none
  else if tag = typeStem ++ "bool".toList then (truth? cs).map .bool
  else if tag = typeStem ++ "int".toList then (integer? cs).map .ofInt
  else if tag = typeStem ++ "float".toList then float? cs
  else if tag = typeStem ++ "null".toList then if namesNull cs then some .null else none
  else some (.string (String.ofList cs))

/-- The value of a scalar. -/
def scalarValue? (tag : Option (List Char)) (isPlain : Bool) (cs : List Char) : Option Json :=
  match tag with
  | some tag => taggedValue? tag cs
  | none => some (if isPlain then plainValue cs else .string (String.ofList cs))

end RecordGateway.Document
