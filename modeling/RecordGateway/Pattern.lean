/-!
# Patterns

The pattern language of the `like` operator.  A percent sign takes any run of characters, an
underscore any one character, and a bracket one character of its set; any other character takes
itself.  The first character after an opening bracket always belongs to the set, so `[[]` and
`[]]` denote the brackets; a set that is not closed reaches to the end of the pattern.
-/

namespace RecordGateway.Pattern

/-- A part of a pattern. -/
inductive Token where
  /-- Any run of characters, also an empty one. -/
  | anyRun
  /-- Any one character. -/
  | anyOne
  /-- One character of a set. -/
  | oneOf (set : List Char)
deriving DecidableEq

mutual

/-- The tokens of a pattern. -/
def tokens : List Char → List Token
  | [] => []
  | '%' :: rest => .anyRun :: tokens rest
  | '_' :: rest => .anyOne :: tokens rest
  | '[' :: rest => setStart rest
  | c :: rest => .oneOf [c] :: tokens rest

/-- The tokens after an opening bracket: the first character belongs to the set. -/
def setStart : List Char → List Token
  | [] => [.oneOf []]
  | c :: rest => setRest [c] rest

/-- The tokens inside a set, of which some characters have been read in reverse. -/
def setRest (set : List Char) : List Char → List Token
  | [] => [.oneOf set.reverse]
  | ']' :: rest => .oneOf set.reverse :: tokens rest
  | c :: rest => setRest (c :: set) rest

end

/-- Whether some tail of the text, the whole text and the empty one included, satisfies `p`. -/
def anyTail (p : List Char → Bool) : List Char → Bool
  | [] => p []
  | c :: rest => p (c :: rest) || anyTail p rest

/-- Whether a text can be cut into pieces that the tokens take in order. -/
def takes : List Token → List Char → Bool
  | [], text => text.isEmpty
  | .anyRun :: rest, text => anyTail (takes rest) text
  | .anyOne :: _, [] => false
  | .anyOne :: rest, _ :: text => takes rest text
  | .oneOf _ :: _, [] => false
  | .oneOf set :: rest, c :: text => set.contains c && takes rest text

/-- Whether a text matches a pattern. -/
def matchesText (text pattern : String) : Bool :=
  takes (tokens pattern.toList) text.toList

/-- The pattern characters that take exactly the character `c`. -/
def escapeChar : Char → List Char
  | '[' => ['[', '[', ']']
  | '%' => ['[', '%', ']']
  | '_' => ['[', '_', ']']
  | c => [c]

/-- A text as a pattern that takes exactly that text. -/
def escape (text : List Char) : List Char :=
  text.flatMap escapeChar

end RecordGateway.Pattern
