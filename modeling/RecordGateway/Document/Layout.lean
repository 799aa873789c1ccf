import RecordGateway.Document.Token

/-!
# The layout of documents

The indent of lines tells which values belong together, and a token turns out to be the name of a
member only when the colon behind it is found.  Tokens are therefore read with the indents of the
lines around them and with the places at which names may have started; when the colon is found, the
marks in front of the name are put in where it started.
-/

namespace RecordGateway.Document

/-- A place at which the name of a member may have started. -/
structure Candidate where
  /-- Whether it has to be a name, since it stands at the indent of a mapping. -/
  isRequired : Bool
  /-- The number of tokens in front of it. -/
  position : Nat
  place : Cursor

/-- A document that has been read up to a place. -/
structure Layout where
  cursor : Cursor
  tokens : List Token
  /-- The column of the current block of lines, negative outside of all blocks. -/
  indent : Int
  /-- The columns of the blocks around the current one. -/
  outer : List Int
  /-- Whether the name of a member may start at the place. -/
  nameAllowed : Bool
  /-- The candidates in the innermost brackets, in those around them, and outside of all. -/
  candidates : List (Option Candidate)

namespace Layout

/-- The layout at the start of a text. -/
def start (cs : List Char) : Layout :=
  ⟨.start cs, [], -1, [], true, [none]⟩

/-- Whether the place lies in brackets. -/
def inBrackets (s : Layout) : Bool :=
  1 < s.candidates.length

/-- A token added at the end. -/
def push (t : Token) (s : Layout) : Layout :=
  { s with tokens := s.tokens ++ [t] }

/-- A token put in after the first `n`. -/
def insertAt (n : Nat) (t : Token) (s : Layout) : Layout :=
  { s with tokens := s.tokens.take n ++ t :: s.tokens.drop n }

/-- A token of `n` characters at the place. -/
def take (t : Token) (n : Nat) (s : Layout) : Layout :=
  { s.push t with cursor := s.cursor.advance n }

/-- The innermost candidate. -/
def candidate? (s : Layout) : Option Candidate :=
  s.candidates.head?.join

/-- The layout with another innermost candidate. -/
def setCandidate (candidate : Option Candidate) (s : Layout) : Layout :=
  { s with candidates := candidate :: s.candidates.drop 1 }

/-! ### Candidates -/

/-- Gives up the innermost candidate, which must not be required. -/
def dropCandidate? (s : Layout) : Option Layout :=
  if s.candidate?.any Candidate.isRequired then none else some (s.setCandidate none)

/-- Makes the place a candidate, if a name may start here. -/
def propose? (s : Layout) : Option Layout :=
  if s.nameAllowed then do
    let s ← s.dropCandidate?
    return s.setCandidate (some {
      isRequired := !s.inBrackets && s.indent == (s.cursor.column : Int)
      position := s.tokens.length
      place := s.cursor })
  else some s

/-- Whether a candidate lies in a line above a place or more than 1024 characters in front. -/
def isStale (c : Cursor) (candidate : Candidate) : Bool :=
  candidate.place.line < c.line || candidate.place.index + 1024 < c.index

/-- Gives up the candidates that cannot be names any more; none of them may be required. -/
def dropStale? (s : Layout) : Option Layout := do
  let candidates ← s.candidates.mapM fun candidate? =>
    match candidate? with
    | none => some none
    | some candidate =>
      if !isStale s.cursor candidate then some (some candidate)
      else if candidate.isRequired then none
      else some none
  return { s with candidates }

/-! ### Blocks of lines -/

/-- The blocks that are left when those behind a column end, and the number of those. -/
def leaveBlocks (column indent : Int) : List Int → Nat × Int × List Int
  | [] => (0, indent, [])
  | next :: outer =>
    if column < indent then
      let (count, indent, outer) := leaveBlocks column next outer
      (count + 1, indent, outer)
    else (0, indent, next :: outer)

/-- Ends the blocks behind a column; blocks do not end in brackets. -/
def leave (column : Int) (s : Layout) : Layout :=
  if s.inBrackets then s
  else
    let (count, indent, outer) := leaveBlocks column s.indent s.outer
    { s with tokens := s.tokens ++ List.replicate count .closing, indent, outer }

/-- Starts a block at a column, unless there is one already; its mark is put in after the first
`position` tokens. -/
def enter (column position : Nat) (opening : Token) (s : Layout) : Layout :=
  if !s.inBrackets && decide (s.indent < column) then
    { s.insertAt position opening with indent := column, outer := s.indent :: s.outer }
  else s

/-- Ends all blocks, in front of a mark between documents or an instruction. -/
def leaveAll? (s : Layout) : Option Layout := do
  let s ← (s.leave (-1)).dropCandidate?
  return { s with nameAllowed := false }

/-- Starts a block at the place, where one has to be allowed outside of brackets. -/
def enterHere? (opening : Token) (s : Layout) : Option Layout :=
  if s.inBrackets then some s
  else if s.nameAllowed then some (s.enter s.cursor.column s.tokens.length opening)
  else none

/-! ### Tokens -/

/-- The layout in front of the next token, behind blanks, comments and line ends.  A tab is no blank
where a name may start. -/
def skipGaps : Nat → Layout → Layout
  | 0, s => s
  | fuel + 1, s =>
    let tabs := s.inBrackets || !s.nameAllowed
    let c := (s.cursor.skipWhile fun ch => ch == ' ' || (tabs && ch == '\t')).skipComment
    if c.head?.any isBreak then
      skipGaps fuel { s with
        cursor := c.readBreak.2
        nameAllowed := s.nameAllowed || !s.inBrackets }
    else { s with cursor := c }

/-- An opening bracket. -/
def openBracket? (t : Token) (s : Layout) : Option Layout := do
  let s ← s.propose?
  let s := { s with candidates := none :: s.candidates, nameAllowed := true }
  return s.take t 1

/-- A closing bracket. -/
def closeBracket? (t : Token) (s : Layout) : Option Layout := do
  let s ← s.dropCandidate?
  let candidates := if s.inBrackets then s.candidates.drop 1 else s.candidates
  return { s with candidates, nameAllowed := false }.take t 1

/-- A comma between values in brackets. -/
def comma? (s : Layout) : Option Layout := do
  let s ← s.dropCandidate?
  return { s with nameAllowed := true }.take .comma 1

/-- The hyphen in front of an item. -/
def item? (s : Layout) : Option Layout := do
  let s ← (← s.enterHere? .sequenceOpening).dropCandidate?
  return { s with nameAllowed := true }.take .item 1

/-- The question mark in front of a name. -/
def nameMark? (s : Layout) : Option Layout := do
  let s ← (← s.enterHere? .mappingOpening).dropCandidate?
  return { s with nameAllowed := !s.inBrackets }.take .nameMark 1

/-- The colon between a name and a value.  If there is a candidate, it is the name, and the marks
in front of it are put in. -/
def valueMark? (s : Layout) : Option Layout :=
  match s.candidate? with
  | some name =>
    let s := (s.insertAt name.position .nameMark).enter name.place.column name.position
      .mappingOpening
    some ({ s.setCandidate none with nameAllowed := false }.take .valueMark 1)
  | none => do
    let s ← s.enterHere? .mappingOpening
    return { s with nameAllowed := !s.inBrackets }.take .valueMark 1

/-- A token that may be a name, as `read?` reads it. -/
def named? (read? : Cursor → Option (Token × Cursor)) (s : Layout) : Option Layout := do
  let s ← s.propose?
  let (t, cursor) ← read? s.cursor
  return { s.push t with cursor, nameAllowed := false }

/-- A plain scalar. -/
def plainScalar? (s : Layout) : Option Layout := do
  let s ← s.propose?
  let scalar ← plain? s.inBrackets (s.indent + 1).toNat s.cursor
  return { s.push (.scalar scalar.text true) with
    cursor := scalar.after
    nameAllowed := scalar.endsLine }

/-- A scalar in indented lines. -/
def indentedScalar? (folded : Bool) (s : Layout) : Option Layout := do
  let s ← s.dropCandidate?
  let (text, cursor) ← indented? folded s.indent s.cursor
  return { s.push (.scalar text false) with cursor, nameAllowed := true }

/-- A mark between documents. -/
def documentMark? (t : Token) (s : Layout) : Option Layout := do
  return (← s.leaveAll?).take t 3

/-- An instruction to the reader. -/
def instruction? (s : Layout) : Option Layout := do
  let s ← s.leaveAll?
  let (t, cursor) ← readInstruction? s.cursor
  return { s.push t with cursor }

/-- A quoted scalar as a token. -/
def quotedToken? (quote : Char) (c : Cursor) : Option (Token × Cursor) := do
  let (text, c) ← quoted? quote c
  return (.scalar text false, c)

/-- A word behind a mark as a token. -/
def wordToken? (token : List Char → Token) (c : Cursor) : Option (Token × Cursor) := do
  let (name, c) ← readAnchorName? c
  return (token name, c)

/-- The layout behind the next token, which starts at the place with the character `ch`. -/
def next? (ch : Char) (s : Layout) : Option Layout :=
  let single := startsWithGap (s.cursor.rest.drop 1)
  if s.cursor.column = 0 ∧ ch = '%' then s.instruction?
  else if s.cursor.startsWithMark Cursor.startMark then s.documentMark? .documentStart
  else if s.cursor.startsWithMark Cursor.endMark then s.documentMark? .documentEnd
  else if ch = '[' then s.openBracket? .bracketOpening
  else if ch = '{' then s.openBracket? .braceOpening
  else if ch = ']' then s.closeBracket? .bracketClosing
  else if ch = '}' then s.closeBracket? .braceClosing
  else if ch = ',' then s.comma?
  else if ch = '-' ∧ single then s.item?
  else if ch = '?' ∧ (s.inBrackets || single) then s.nameMark?
  else if ch = ':' ∧ (s.inBrackets || single) then s.valueMark?
  else if ch = '*' then s.named? (wordToken? .reference)
  else if ch = '&' then s.named? (wordToken? .anchor)
  else if ch = '!' then s.named? (readTag? s.inBrackets)
  else if ch = '|' ∧ !s.inBrackets then s.indentedScalar? false
  else if ch = '>' ∧ !s.inBrackets then s.indentedScalar? true
  else if ch = '\'' ∨ ch = '"' then s.named? (quotedToken? ch)
  else if startsPlain s.inBrackets s.cursor.rest then s.plainScalar?
  else none

/-- All tokens of a document that has been read up to a place. -/
def finish? : Nat → Layout → Option (List Token)
  | 0, _ => none
  | fuel + 1, s => do
    let s ← (s.skipGaps (s.cursor.rest.length + 1)).dropStale?
    let s := s.leave s.cursor.column
    match s.cursor.head? with
    | none => return (← s.leaveAll?).tokens
    | some ch => finish? fuel (← s.next? ch)

end Layout

/-- A character that may stand in a document. -/
def isAllowed (c : Char) : Bool :=
  c == '\t' || c == '\n' || c == '\r' || c == '\u0085' ||
    ('\u0020' ≤ c && c ≤ '\u007e') || ('\u00a0' ≤ c && c.toNat ≤ 0xfffd) || 0x10000 ≤ c.toNat

/-- The mark that some texts start with; it takes a column but has no meaning. -/
def orderMark : Char := '\ufeff'

/-- The tokens of a text. -/
def tokens? (cs : List Char) : Option (List Token) :=
  if cs.all isAllowed then
    let s := Layout.start cs
    let skipped := if cs.head? = some orderMark then 1 else 0
    { s with cursor := s.cursor.advance skipped }.finish? (cs.length + 1)
  else none

end RecordGateway.Document
