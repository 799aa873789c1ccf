import RecordGateway.Document.Cursor
import RecordGateway.Json.Reader

/-!
# Quoted scalars

A scalar in single quotes stands for itself, except that a quote is written twice.  In double
quotes a backslash starts an escape, and takes away the line end behind it.  A scalar may take
several lines, whose ends and indents read as blanks.
-/

namespace RecordGateway.Document

/-- The character that a letter after a backslash stands for. -/
def escaped? : Char → Option Char
  | '0' => some '\u0000'
  | 'a' => some '\u0007'
  | 'b' => some '\u0008'
  | 't' | '\t' => some '\t'
  | 'n' => some '\n'
  | 'v' => some '\u000b'
  | 'f' => some '\u000c'
  | 'r' => some '\r'
  | 'e' => some '\u001b'
  | 'N' => some '\u0085'
  | '_' => some '\u00a0'
  | 'L' => some '\u2028'
  | 'P' => some '\u2029'
  | c => if c = ' ' ∨ c = '"' ∨ c = '/' ∨ c = '\\' then some c else none

/-- The character of a code point in hexadecimal. -/
def codePoint? (digits : List Char) : Option Char := do
  Json.scalar? (← Text.hexNatural? digits)

/-- The number of hexadecimal digits behind a letter that starts a code point. -/
def codeLength? : Char → Option Nat
  | 'x' => some 2
  | 'u' => some 4
  | 'U' => some 8
  | _ => none

/-- The character that an escape stands for, and the number of characters behind the backslash. -/
def escape? : List Char → Option (Char × Nat)
  | [] => none
  | letter :: rest =>
    match codeLength? letter with
    | some n =>
      if rest.length < n then none else (codePoint? (rest.take n)).map fun c => (c, n + 1)
    | none => (escaped? letter).map fun c => (c, 1)

/-- A piece of a quoted scalar: the text up to a gap or a quote, whether a line end was taken away
behind it, and the place behind. -/
structure Piece where
  text : List Char
  joined : Bool
  after : Cursor

/-- A piece with a character in front of it. -/
def Piece.cons (ch : Char) (p : Piece) : Piece :=
  { p with text := ch :: p.text }

/-- Reads a piece of a scalar with the given quote. -/
def readPiece? (quote : Char) : Nat → Cursor → Option Piece
  | 0, _ => none
  | fuel + 1, c =>
    match c.rest with
    | [] => some ⟨[], false, c⟩
    | ch :: rest =>
      if isGap ch || isBreak ch then some ⟨[], false, c⟩
      else if ch = quote then
        if ch = '\'' ∧ rest.head? = some ch then
          (readPiece? quote fuel (c.advance 2)).map (Piece.cons ch)
        else some ⟨[], false, c⟩
      else if ch = '\\' ∧ quote = '"' then
        if rest.head?.any isBreak then some ⟨[], true, (c.advance 1).readBreak.2⟩
        else do
          let (escaped, length) ← escape? rest
          (readPiece? quote fuel (c.advance (length + 1))).map (Piece.cons escaped)
      else (readPiece? quote fuel (c.advance 1)).map (Piece.cons ch)

/-- Reads what is left of a scalar with the given quote. -/
def readQuoted? (quote : Char) : Nat → Cursor → Option (List Char × Cursor)
  | 0, _ => none
  | fuel + 1, c => do
    if c.atMark || c.rest.isEmpty then none
    else
      let piece ← readPiece? quote (c.rest.length + 1) c
      if piece.after.head? = some quote then some (piece.text, piece.after.advance 1)
      else
        let (gap, c) ← gapAt? 0 (if piece.joined then some [] else none) piece.after
        let (text, c) ← readQuoted? quote fuel c
        return (piece.text ++ gap.text ++ text, c)

/-- The quoted scalar at a place, and the place behind it. -/
def quoted? (quote : Char) (c : Cursor) : Option (List Char × Cursor) :=
  readQuoted? quote (c.rest.length + 1) (c.advance 1)

end RecordGateway.Document
