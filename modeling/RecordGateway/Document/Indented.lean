import RecordGateway.Document.Cursor

/-!
# Scalars in indented lines

A scalar can stand in the lines below a vertical bar, which keeps its line ends, or below a greater
sign, which joins lines that start at the indent.  Behind the mark it can be told how deep the lines
are indented, and what becomes of the line ends behind the last line.
-/

namespace RecordGateway.Document

/-- What becomes of the line ends behind the last line. -/
inductive Chomping where
  /-- All are dropped. -/
  | strip
  /-- One is kept. -/
  | clip
  /-- All are kept. -/
  | keep
deriving DecidableEq

/-- The chomping that a sign stands for. -/
def Chomping.ofSign? : Char → Option Chomping
  | '+' => some keep
  | '-' => some strip
  | _ => none

/-- Reads a depth, a digit other than zero; zero if there is no digit. -/
def readDepth? (c : Cursor) : Option (Nat × Cursor) :=
  match c.head?.bind Text.digit? with
  | none => some (0, c)
  | some 0 => none
  | some d => some (d, c.advance 1)

/-- Reads the chomping and the depth behind the mark, in any order. -/
def readHeader? (c : Cursor) : Option (Chomping × Nat × Cursor) := do
  match c.head?.bind Chomping.ofSign? with
  | some chomping =>
    let (depth, c) ← readDepth? (c.advance 1)
    return (chomping, depth, c)
  | none =>
    let (depth, c) ← readDepth? c
    match c.head?.bind Chomping.ofSign? with
    | some chomping => return (chomping, depth, c.advance 1)
    | none => return (.clip, depth, c)

/-- The line ends of empty lines as they read, the deepest indent that was seen, and the place
behind.  Lines are empty if they have no more than `indent` blanks, or, if that is not known and
zero, nothing but blanks. -/
def readEmptyLines? (indent : Nat) : Nat → Nat → Cursor → Option (List Char × Nat × Cursor)
  | 0, _, _ => none
  | fuel + 1, deepest, c =>
    let blanks := (c.rest.takeWhile (· == ' ')).length
    let c := c.advance (if indent = 0 then blanks else min blanks (indent - c.column))
    let deepest := max deepest c.column
    if (indent = 0 ∨ c.column < indent) ∧ c.head? = some '\t' then none
    else if c.head?.any isBreak then do
      let (text, c) := c.readBreak
      let (more, deepest, c) ← readEmptyLines? indent fuel deepest c
      return (text ++ more, deepest, c)
    else some ([], deepest, c)

/-- The text of a scalar up to its last line, and the line ends behind it. -/
structure IndentedText where
  text : List Char
  /-- The end of the last line. -/
  last : List Char
  /-- The ends of the empty lines behind it. -/
  more : List Char
  after : Cursor

/-- Reads the lines at the indent; `last`, `more` and `blank` tell the end of the line before, the
ends of the empty lines behind it, and whether it started with a blank. -/
def readLines? (folded : Bool) (indent : Nat) :
    Nat → List Char → List Char → Bool → Cursor → Option IndentedText
  | 0, _, _, _, _ => none
  | fuel + 1, last, more, blank, c =>
    if c.column = indent ∧ !c.rest.isEmpty then do
      let startsBlank := c.head?.any isGap
      let joined := folded && last.head? == some '\n' && !blank && !startsBlank
      let between := if joined then (if more = [] then [' '] else more) else last ++ more
      let (line, c) := c.takeWhile fun ch => !isBreak ch
      let (last, c) := c.readBreak
      let (more, _, c) ← readEmptyLines? indent (c.rest.length + 1) 0 c
      let tail ← readLines? folded indent fuel last more startsBlank c
      return { tail with text := between ++ line ++ tail.text }
    else some ⟨[], last, more, c⟩

/-- The scalar whose mark is at a place, and the place behind it; `outer` is the column that the
lines have to lie behind, or a negative number. -/
def indented? (folded : Bool) (outer : Int) (c : Cursor) : Option (List Char × Cursor) := do
  let (chomping, depth, c) ← readHeader? (c.advance 1)
  let c ← c.endLine?
  let given := if depth = 0 then 0 else (max outer 0).toNat + depth
  let (more, deepest, c) ← readEmptyLines? given (c.rest.length + 1) 0 c
  let indent := if given = 0 then max (max deepest (outer + 1).toNat) 1 else given
  let result ← readLines? folded indent (c.rest.length + 1) [] more false c
  let tail := match chomping with
    | .strip => []
    | .clip => result.last
    | .keep => result.last ++ result.more
  return (result.text ++ tail, result.after)

end RecordGateway.Document
