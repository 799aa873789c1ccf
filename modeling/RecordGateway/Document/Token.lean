import RecordGateway.Document.Indented
import RecordGateway.Document.Plain
import RecordGateway.Document.Quoted

/-!
# Tokens of documents

The tokens that a document is made of: its scalars and marks, and marks that no character stands
for, where lines that are indented deeper begin and end, and in front of the names of members.
-/

namespace RecordGateway.Document

/-- A token of a document. -/
inductive Token where
  /-- The version that a document is written for. -/
  | version (major minor : Nat)
  /-- A short form for the start of tags. -/
  | tagHandle (handle stem : List Char)
  | documentStart
  | documentEnd
  | sequenceOpening
  | mappingOpening
  /-- The end of a sequence or mapping in indented lines. -/
  | closing
  /-- The hyphen in front of an item. -/
  | item
  | bracketOpening
  | bracketClosing
  | braceOpening
  | braceClosing
  | comma
  /-- The mark in front of the name of a member, which is left out mostly. -/
  | nameMark
  /-- The colon between the name and the value of a member. -/
  | valueMark
  | anchor (name : List Char)
  /-- A value that has been given a name before. -/
  | reference (name : List Char)
  | tag (handle rest : List Char)
  | scalar (text : List Char) (isPlain : Bool)
deriving DecidableEq

/-! ### Tags -/

/-- A character that a tag can have apart from those of words. -/
def isTagChar (verbatim : Bool) (c : Char) : Bool :=
  isWordChar c || ";/?:@&=+$.%!~*'()".toList.contains c ||
    (verbatim && (c == ',' || c == '[' || c == ']'))

/-- The number of octets of a character whose first octet is given. -/
def octetCount? (octet : Nat) : Option Nat :=
  if octet < 0x80 then some 1
  else if 0xc0 ≤ octet ∧ octet < 0xe0 then some 2
  else if 0xe0 ≤ octet ∧ octet < 0xf0 then some 3
  else if 0xf0 ≤ octet ∧ octet < 0xf8 then some 4
  else none

/-- The octet after a percent sign. -/
def percentOctet? : List Char → Option Nat
  | '%' :: a :: b :: _ => Text.hexNatural? [a, b]
  | _ => none

/-- The octets of a character, each after a percent sign. -/
def percentOctets? (cs : List Char) : Option (List Nat) := do
  let first ← percentOctet? cs
  let count ← octetCount? first
  let others ← (List.range (count - 1)).mapM fun i => percentOctet? (cs.drop (3 * (i + 1)))
  if others.all fun octet => 0x80 ≤ octet && octet < 0xc0 then some (first :: others) else none

/-- The characters of a tag, with octets after percent signs decoded, and the place behind. -/
def readTagChars? (verbatim : Bool) : Nat → Cursor → Option (List Char × Cursor)
  | 0, _ => none
  | fuel + 1, c =>
    match c.head? with
    | none => some ([], c)
    | some ch =>
      if ch = '%' then do
        let octets ← percentOctets? c.rest
        let text ← String.fromUTF8? ⟨(octets.map UInt8.ofNat).toArray⟩
        let (more, c) ← readTagChars? verbatim fuel (c.advance (3 * octets.length))
        return (text.toList ++ more, c)
      else if isTagChar verbatim ch then do
        let (more, c) ← readTagChars? verbatim fuel (c.advance 1)
        return (ch :: more, c)
      else some ([], c)

/-- The characters of a tag at a place. -/
def tagChars? (verbatim : Bool) (c : Cursor) : Option (List Char × Cursor) :=
  readTagChars? verbatim (c.rest.length + 1) c

/-- The handle of a tag: an exclamation mark, and maybe a word and a second one behind it. -/
def readHandle? (c : Cursor) : Option (List Char × Cursor) :=
  if c.head? = some '!' then
    let (word, c) := (c.advance 1).takeWhile isWordChar
    if c.head? = some '!' then some ('!' :: word ++ ['!'], c.advance 1)
    else some ('!' :: word, c)
  else none

/-- Reads a tag: in angle brackets, or a handle and the rest. -/
def readTag? (flow : Bool) (c : Cursor) : Option (Token × Cursor) := do
  let (tag, c) ← if c.rest[1]? = some '<' then do
      let (rest, c) ← tagChars? true (c.advance 2)
      if rest ≠ [] ∧ c.head? = some '>' then some (Token.tag [] rest, c.advance 1) else none
    else do
      let (handle, c) ← readHandle? c
      let (rest, c) ← tagChars? false c
      if 1 < handle.length ∧ handle.getLast? = some '!' then
        if rest = [] then none else some (Token.tag handle rest, c)
      else
        let rest := handle.drop 1 ++ rest
        some (if rest = [] then Token.tag [] ['!'] else Token.tag ['!'] rest, c)
  if startsWithGap c.rest || (flow && c.head? == some ',') then some (tag, c) else none

/-- Reads the name behind the mark of an anchor or a reference. -/
def readAnchorName? (c : Cursor) : Option (List Char × Cursor) :=
  let (name, c) := (c.advance 1).takeWhile isWordChar
  if name ≠ [] ∧ (startsWithGap c.rest || c.head?.any "?:,]\x7d%@\u0060".toList.contains) then
    some (name, c)
  else none

/-! ### Instructions -/

/-- Reads a number of a version, which has at most nine digits. -/
def readVersionNumber? (c : Cursor) : Option (Nat × Cursor) := do
  let (digits, c) := c.takeWhile Text.isDigit
  if digits.length ≤ 9 then return (← Text.natural? digits, c) else none

/-- Reads an instruction to the reader: the version of the document or a handle for tags. -/
def readInstruction? (c : Cursor) : Option (Token × Cursor) := do
  let (name, c) := (c.advance 1).takeWhile isWordChar
  if !startsWithGap c.rest then none
  else
    let (token, c) ← match String.ofList name with
      | "YAML" => do
        let (major, c) ← readVersionNumber? (c.skipWhile isGap)
        if c.head? ≠ some '.' then none
        else
          let (minor, c) ← readVersionNumber? (c.advance 1)
          some (Token.version major minor, c)
      | "TAG" => do
        let (handle, c) ← readHandle? (c.skipWhile isGap)
        if (1 < handle.length ∧ handle.getLast? ≠ some '!') ∨ !(c.head?.any isGap) then none
        else
          let (stem, c) ← tagChars? true (c.skipWhile isGap)
          if stem ≠ [] ∧ startsWithGap c.rest then some (Token.tagHandle handle stem, c) else none
      | _ => none
    return (token, ← c.endLine?)

end RecordGateway.Document
