import RecordGateway.Text.Digits

/-!
# Places in a document

A place in a document is what is left of its text, with the line and the column of the place.
Lines end with a line feed, a carriage return, both, or one of the other line ends of Unicode; all
of them read as a line feed, except for the line and the paragraph separator, which stay.
-/

namespace RecordGateway.Document

/-- A character that ends a line. -/
def isBreak (c : Char) : Bool :=
  c == '\n' || c == '\r' || c == '\u0085' || c == '\u2028' || c == '\u2029'

/-- A blank within a line. -/
def isGap (c : Char) : Bool :=
  c == ' ' || c == '\t'

/-- Whether a text starts with a blank or a line end, or is empty. -/
def startsWithGap (cs : List Char) : Bool :=
  cs.head?.all fun c => isGap c || isBreak c

/-- A character of a word: a letter or digit of ASCII, an underscore or a hyphen. -/
def isWordChar (c : Char) : Bool :=
  c.isAlphanum || c == '_' || c == '-'

/-- A place in a document. -/
structure Cursor where
  rest : List Char
  /-- The number of characters in front of the place. -/
  index : Nat
  line : Nat
  column : Nat

namespace Cursor

/-- The start of a text. -/
def start (cs : List Char) : Cursor :=
  ⟨cs, 0, 0, 0⟩

/-- The character at a place, if there is one. -/
def head? (c : Cursor) : Option Char :=
  c.rest.head?

/-- The place some characters further on in the same line. -/
def advance (c : Cursor) (n : Nat) : Cursor :=
  { c with rest := c.rest.drop n, index := c.index + n, column := c.column + n }

/-- The characters of the same line that satisfy a condition, and the place behind them. -/
def takeWhile (p : Char → Bool) (c : Cursor) : List Char × Cursor :=
  let run := c.rest.takeWhile p
  (run, c.advance run.length)

/-- The place behind the characters of the same line that satisfy a condition. -/
def skipWhile (p : Char → Bool) (c : Cursor) : Cursor :=
  (c.takeWhile p).2

/-- The line end at a place as it reads, and the place behind it. -/
def readBreak (c : Cursor) : List Char × Cursor :=
  match c.rest with
  | '\r' :: '\n' :: rest => (['\n'], ⟨rest, c.index + 2, c.line + 1, 0⟩)
  | b :: rest =>
    if isBreak b then
      ([if b = '\u2028' ∨ b = '\u2029' then b else '\n'], ⟨rest, c.index + 1, c.line + 1, 0⟩)
    else ([], c)
  | [] => ([], c)

/-- Whether a mark, three characters and then a blank or a line end, is at a place at the start of
a line. -/
def startsWithMark (mark : List Char) (c : Cursor) : Bool :=
  c.column == 0 && mark.isPrefixOf c.rest && startsWithGap (c.rest.drop mark.length)

/-- The mark at the start of a document. -/
def startMark : List Char := ['-', '-', '-']

/-- The mark at the end of a document. -/
def endMark : List Char := ['.', '.', '.']

/-- Whether a place lies at a mark between documents. -/
def atMark (c : Cursor) : Bool :=
  c.startsWithMark startMark || c.startsWithMark endMark

/-- The place behind a comment, if there is one, and otherwise the same place. -/
def skipComment (c : Cursor) : Cursor :=
  if c.head? = some '#' then c.skipWhile fun ch => !isBreak ch else c

/-- The place behind blanks, a comment and the line end; nothing else may be left of the line. -/
def endLine? (c : Cursor) : Option Cursor :=
  let c := (c.skipWhile isGap).skipComment
  if c.head?.all isBreak then some c.readBreak.2 else none

end Cursor

/-! ### Gaps -/

/-- The blanks and line ends between two words of a scalar. -/
structure Gap where
  /-- The blanks, if there is no line end. -/
  blanks : List Char
  /-- The first line end as it reads; one that a backslash takes away reads as nothing. -/
  first : Option (List Char)
  /-- The further line ends as they read. -/
  more : List Char

/-- What a gap reads as: a single line end is a blank, of several the first is dropped. -/
def Gap.text (g : Gap) : List Char :=
  match g.first with
  | none => g.blanks
  | some ['\n'] => if g.more = [] then [' '] else g.more
  | some first => first ++ g.more

/-- Reads a gap; the characters at a place are added to what was read of it.  No tab may stand at
the start of a line in front of the column `floor`. -/
def readGap? (floor : Nat) : Nat → Gap → Cursor → Option (Gap × Cursor)
  | 0, _, _ => none
  | fuel + 1, g, c =>
    match c.head? with
    | none => some (g, c)
    | some ch =>
      if isGap ch then
        if g.first.isNone then
          readGap? floor fuel { g with blanks := g.blanks ++ [ch] } (c.advance 1)
        else if c.column < floor ∧ ch = '\t' then none
        else readGap? floor fuel g (c.advance 1)
      else if isBreak ch then
        let (text, c) := c.readBreak
        let g : Gap := match g.first with
          | none => ⟨[], some text, []⟩
          | some _ => { g with more := g.more ++ text }
        readGap? floor fuel g c
      else some (g, c)

/-- The gap at a place; `first` is a line end that was read already. -/
def gapAt? (floor : Nat) (first : Option (List Char)) (c : Cursor) : Option (Gap × Cursor) :=
  readGap? floor (c.rest.length + 1) ⟨[], first, []⟩ c

end RecordGateway.Document
