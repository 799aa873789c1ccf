import RecordGateway.Document.Cursor

/-!
# Plain scalars

A plain scalar stands without quotes.  It ends at a colon or a number sign where they have their
own meaning, at a bracket or comma inside brackets, and at a line that is not indented.
-/

namespace RecordGateway.Document

/-- A character that separates or closes values in brackets. -/
def isFlowMark (c : Char) : Bool :=
  ",[]\x7b\x7d".toList.contains c

/-- Whether a colon is in the wrong place in brackets. -/
def isLostColon (rest : List Char) : Bool :=
  rest.head?.any fun c => isFlowMark c || c == '?'

/-- The characters of a plain scalar up to a gap or its end. -/
def readWord? (flow : Bool) : List Char → Option (List Char)
  | [] => some []
  | c :: rest =>
    if isGap c || isBreak c then some []
    else if flow && c == ':' && isLostColon rest then none
    else if (c == ':' && startsWithGap rest) || (flow && isFlowMark c) then some []
    else (readWord? flow rest).map (c :: ·)

/-- A plain scalar, the place behind it, and whether the gap behind it has a line end. -/
structure PlainScalar where
  text : List Char
  after : Cursor
  endsLine : Bool

/-- Reads what is left of a plain scalar, of which the text so far and the gap behind it are given;
lines have to be indented by `floor` columns. -/
def readPlain? (flow : Bool) (floor : Nat) : Nat → List Char → Gap → Cursor → Option PlainScalar
  | 0, _, _, _ => none
  | fuel + 1, text, gap, c => do
    let word ← if c.atMark || c.head? = some '#' then some [] else readWord? flow c.rest
    let text := if word = [] then text else text ++ gap.text ++ word
    let c := c.advance word.length
    if word = [] || !(c.head?.any fun ch => isGap ch || isBreak ch) then
      return ⟨text, c, word.isEmpty && gap.first.isSome⟩
    else
      let (gap, c) ← gapAt? floor none c
      if !flow && c.column < floor then return ⟨text, c, gap.first.isSome⟩
      else readPlain? flow floor fuel text gap c

/-- The plain scalar at a place. -/
def plain? (flow : Bool) (floor : Nat) (c : Cursor) : Option PlainScalar :=
  readPlain? flow floor (c.rest.length + 1) [] ⟨[], none, []⟩ c

/-- Whether a plain scalar can start with a text. -/
def startsPlain (flow : Bool) : List Char → Bool
  | [] => false
  | c :: rest =>
    if c == '-' then !(rest.head?.any isGap)
    else if c == '?' || c == ':' then !flow && !startsWithGap rest
    else !(isGap c || isBreak c || ",[]\x7b\x7d#&*!|>'\"%@\u0060".toList.contains c)

end RecordGateway.Document
