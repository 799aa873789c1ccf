import RecordGateway.Document.Quoted
import RecordGateway.Document.Scalar
import RecordGateway.Json.Merge
import RecordGateway.Text.Blank
import RecordGateway.Word

/-!
# Settings from the environment

A variable whose name starts with a mark is a setting.  The rest of its name, in lower case, is
the name of the setting, or a path of names with two underscores between them.  Its content is a
truth value, a number, a quoted string, or a mapping or sequence in brackets if it reads as one,
and otherwise a string as it stands.
-/

namespace RecordGateway.Environment

/-- What the names of settings start with. -/
def mark : String := "CRM_BRIDGE__"

/-- The text after a prefix, which is compared without regard to case. -/
def afterPrefix? : List Char → List Char → Option (List Char)
  | [], cs => some cs
  | _, [] => none
  | p :: ps, c :: cs => if p.toLower = c.toLower then afterPrefix? ps cs else none

/-- The names of a path: the pieces between dots and pairs of underscores. -/
def pathOf : List Char → List (List Char)
  | [] => [[]]
  | '_' :: '_' :: rest => [] :: pathOf rest
  | '.' :: rest => [] :: pathOf rest
  | c :: rest => match pathOf rest with
    | piece :: more => (c :: piece) :: more
    | [] => [[c]]

/-- The path of a variable's name, if it is the name of a setting. -/
def settingPath? (name : String) : Option (List String) := do
  let rest ← afterPrefix? mark.toList (Text.trim name.toList)
  let path := pathOf ((Text.trim rest).map Char.toLower)
  if path.any List.isEmpty then none else some (path.map String.ofList)

/-! ### Contents -/

/-- A blank of ASCII. -/
def isSpace (c : Char) : Bool :=
  c == ' ' || c == '\t' || c == '\n' || c == '\r' || c == '\u000c'

/-- The text without the blanks at its start. -/
def skipSpace (cs : List Char) : List Char :=
  cs.dropWhile isSpace

/-- A character that a number or an unquoted string does not have. -/
def isSeparator (c : Char) : Bool :=
  ",[]\x7b\x7d".toList.contains c

/-- A character of the name of a member. -/
def isNameChar (c : Char) : Bool :=
  c.isAlphanum || c == '_' || c == '-'

/-- The content of a text that is neither quoted nor in brackets. -/
def bareValue (cs : List Char) : Json :=
  let text := String.ofList cs
  let (negative, digits) := Document.splitSign cs
  if cs.contains '.' && (Document.splitSign digits).2 == digits && isDecimal digits then
    .number text
  else match Text.natural? digits with
    | some n =>
      let value : Int := if negative then -(n : Int) else n
      if isWord value then .ofInt value else .string text
    | none => .string text
where
  /-- Whether a text is a number with a fraction, and maybe with an exponent. -/
  isDecimal (digits : List Char) : Bool :=
    let whole := digits.takeWhile Text.isDigit
    match digits.dropWhile Text.isDigit with
    | '.' :: rest =>
      (!whole.isEmpty || (rest.head?.any Text.isDigit)) &&
        Json.isExponent (rest.dropWhile Text.isDigit)
    | _ => false

/-- A character put in front of what was read. -/
def consRead (c : Char) (r : List Char × List Char) : List Char × List Char :=
  (c :: r.1, r.2)

/-- The text up to the closing quote, with escapes resolved, and what follows the quote. -/
def quoted? : List Char → Option (List Char × List Char)
  | [] => none
  | '"' :: rest => some ([], rest)
  | '\\' :: 'u' :: a :: b :: c :: d :: rest => do
    return consRead (← Document.codePoint? [a, b, c, d]) (← quoted? rest)
  | '\\' :: 'U' :: a :: b :: c :: d :: e :: f :: g :: h :: rest => do
    return consRead (← Document.codePoint? [a, b, c, d, e, f, g, h]) (← quoted? rest)
  | '\\' :: c :: rest =>
    if ['b', 't', 'n', 'f', 'r', '"', '\\'].contains c then do
      return consRead (← Document.escaped? c) (← quoted? rest)
    else none
  | c :: rest => (quoted? rest).map (consRead c)

/-- The name of a member and what follows it. -/
def memberName? : List Char → Option (List Char × List Char)
  | '"' :: rest => quoted? rest
  | cs =>
    let name := cs.takeWhile isNameChar
    if name = [] then none else some (name, cs.dropWhile isNameChar)

mutual

/-- A content and what follows it. -/
def value? : Nat → List Char → Option (Json × List Char)
  | 0, _ => none
  | fuel + 1, cs => do
    let (value, rest) ← match skipSpace cs with
      | 't' :: 'r' :: 'u' :: 'e' :: rest => some (.bool true, rest)
      | 'f' :: 'a' :: 'l' :: 's' :: 'e' :: rest => some (.bool false, rest)
      | '{' :: rest => (members? fuel rest).map fun r => (.ofMembers r.1, r.2)
      | '[' :: rest => (items? fuel rest).map fun r => (.array r.1, r.2)
      | '"' :: rest => (quoted? rest).map fun r => (.string (String.ofList r.1), r.2)
      | '\'' :: c :: '\'' :: rest => some (.string (String.ofList [c]), rest)
      | '\'' :: _ => none
      | cs =>
        some (bareValue (Text.trim (cs.takeWhile fun c => !isSeparator c)),
          cs.dropWhile fun c => !isSeparator c)
    return (value, skipSpace rest)

/-- The items up to the closing bracket and what follows it. -/
def items? : Nat → List Char → Option (List Json × List Char)
  | 0, _ => none
  | fuel + 1, cs => match cs with
    | ']' :: rest => some ([], rest)
    | cs => do
      let (item, rest) ← value? fuel cs
      match rest with
      | ']' :: rest => return ([item], rest)
      | ',' :: rest => do
        let (items, rest) ← items? fuel rest
        return (item :: items, rest)
      | _ => none

/-- The members up to the closing brace and what follows it. -/
def members? : Nat → List Char → Option (List (String × Json) × List Char)
  | 0, _ => none
  | fuel + 1, cs => match cs with
    | '}' :: rest => some ([], rest)
    | cs => do
      let (name, rest) ← memberName? (skipSpace cs)
      match skipSpace rest with
      | '=' :: rest => do
        let (item, rest) ← value? fuel rest
        let member := (String.ofList name, item)
        match rest with
        | '}' :: rest => return ([member], rest)
        | ',' :: rest => do
          let (members, rest) ← members? fuel rest
          return (member :: members, rest)
        | _ => none
      | _ => none

end

/-- The content of a variable. -/
def contentOf (text : String) : Json :=
  match value? (2 * text.length + 1) text.toList with
  | some (value, []) => value
  | _ => .string text

/-- The settings in an environment, of whose variables a later one counts before an earlier one. -/
def settings (environment : List (String × String)) : Json :=
  environment.foldl
    (fun settings v => match settingPath? v.1 with
      | some path => settings.merge (Json.nest path (contentOf v.2))
      | none => settings)
    (.object [])

end RecordGateway.Environment
