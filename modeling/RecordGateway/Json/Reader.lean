import RecordGateway.Json.Basic
import RecordGateway.Text.Reading

/-!
# Reading JSON

A recursive-descent reader over lists of characters.  Every step returns what is left of the text
together with the fact that it became shorter, which is why the reader ends on every text.
-/

namespace RecordGateway.Json

open Text (Reading)

/-- The white space of JSON. -/
def isSpace (c : Char) : Bool :=
  c == ' ' || c == '\t' || c == '\n' || c == '\r'

/-- The text without the white space at its start. -/
def skipSpace (s : List Char) : List Char :=
  s.dropWhile isSpace

/-- Skipping white space makes no text longer. -/
theorem length_skipSpace_le (s : List Char) : (skipSpace s).length ≤ s.length :=
  (List.dropWhile_sublist isSpace).length_le

/-- What is shorter than a text without its white space is shorter than the text. -/
theorem shorter_of_skipSpace {s cs rest : List Char} (h : skipSpace s = cs)
    (hr : rest.length < cs.length) : rest.length < s.length :=
  Nat.lt_of_lt_of_le hr (h ▸ length_skipSpace_le s)

/-- What follows the first character of a text is shorter than the text. -/
theorem shorter_of_cons {c : Char} {cs rest : List Char} (h : rest.length ≤ cs.length) :
    rest.length < (c :: cs).length :=
  Nat.lt_succ_of_le h

/-- A code unit of a `u` escape. -/
def codeUnit? (a b c d : Char) : Option Nat :=
  Text.hexNatural? [a, b, c, d]

/-- The character of a code point that is none of a surrogate. -/
def scalar? (n : Nat) : Option Char :=
  if h : n.isValidChar then some (Char.ofNatAux n h) else none

/-- Reads what follows a backslash in a string. -/
def readEscape : (s : List Char) → Option (Reading Char s)
  | '"' :: rest => some ⟨'"', rest, shorter_of_cons (Nat.le_refl _)⟩
  | '\\' :: rest => some ⟨'\\', rest, shorter_of_cons (Nat.le_refl _)⟩
  | '/' :: rest => some ⟨'/', rest, shorter_of_cons (Nat.le_refl _)⟩
  | 'b' :: rest => some ⟨'\x08', rest, shorter_of_cons (Nat.le_refl _)⟩
  | 'f' :: rest => some ⟨'\x0c', rest, shorter_of_cons (Nat.le_refl _)⟩
  | 'n' :: rest => some ⟨'\n', rest, shorter_of_cons (Nat.le_refl _)⟩
  | 'r' :: rest => some ⟨'\r', rest, shorter_of_cons (Nat.le_refl _)⟩
  | 't' :: rest => some ⟨'\t', rest, shorter_of_cons (Nat.le_refl _)⟩
  | 'u' :: a :: b :: c :: d :: '\\' :: 'u' :: e :: f :: g :: h :: rest => do
    let high ← codeUnit? a b c d
    if 0xd800 ≤ high ∧ high < 0xdc00 then
      let low ← codeUnit? e f g h
      if 0xdc00 ≤ low ∧ low < 0xe000 then
        let c ← scalar? (0x10000 + (high - 0xd800) * 0x400 + (low - 0xdc00))
        some ⟨c, rest, shorter_of_cons (Nat.le_add_right _ 10)⟩
      else none
    else
      let c ← scalar? high
      some ⟨c, '\\' :: 'u' :: e :: f :: g :: h :: rest, shorter_of_cons (Nat.le_add_right _ 4)⟩
  | 'u' :: a :: b :: c :: d :: rest => do
    let c ← scalar? (← codeUnit? a b c d)
    some ⟨c, rest, shorter_of_cons (Nat.le_add_right _ 4)⟩
  | _ => none

/-- Reads a string up to its closing quote. -/
def readString (s : List Char) : Option (Reading (List Char) s) :=
  match s with
  | [] => none
  | '"' :: rest => some ⟨[], rest, shorter_of_cons (Nat.le_refl _)⟩
  | '\\' :: rest => do
    let escape ← readEscape rest
    have := escape.shorter
    let tail ← readString escape.rest
    some ⟨escape.value :: tail.value, tail.rest, by
      have := tail.shorter
      have := escape.shorter
      simp only [List.length_cons]
      omega⟩
  | c :: rest =>
    if c.toNat < 0x20 then none
    else do
      let tail ← readString rest
      some ⟨c :: tail.value, tail.rest, shorter_of_cons (Nat.le_of_lt tail.shorter)⟩
termination_by s.length
decreasing_by all_goals (simp only [List.length_cons]; omega)

/-- A character that may occur in a number. -/
def isNumberChar (c : Char) : Bool :=
  Text.isDigit c || c == '-' || c == '+' || c == '.' || c == 'e' || c == 'E'

/-- The exponent of a number: nothing, or a letter, a sign and digits. -/
def isExponent : List Char → Bool
  | [] => true
  | c :: rest =>
    let digits := match rest with
      | '+' :: ds | '-' :: ds => ds
      | ds => ds
    (c == 'e' || c == 'E') && !digits.isEmpty && digits.all Text.isDigit

/-- What follows the integer part of a number: a fraction, if any, and an exponent, if any. -/
def isFractionAndExponent : List Char → Bool
  | '.' :: rest =>
    !(rest.takeWhile Text.isDigit).isEmpty && isExponent (rest.dropWhile Text.isDigit)
  | cs => isExponent cs

/-- A number without its sign: no zero stands in front of another digit. -/
def isUnsignedNumber : List Char → Bool
  | '0' :: rest => isFractionAndExponent rest
  | cs => !(cs.takeWhile Text.isDigit).isEmpty && isFractionAndExponent (cs.dropWhile Text.isDigit)

/-- A number as JSON writes it. -/
def isNumber : List Char → Bool
  | '-' :: rest => isUnsignedNumber rest
  | cs => isUnsignedNumber cs

/-- Reads a number. -/
def readNumber : (s : List Char) → Option (Reading Json s)
  | [] => none
  | c :: rest =>
    let tail := rest.takeWhile isNumberChar
    if isNumberChar c && isNumber (c :: tail) then
      some ⟨.number (String.ofList (c :: tail)), rest.dropWhile isNumberChar,
        shorter_of_cons (List.dropWhile_sublist isNumberChar).length_le⟩
    else none

mutual

/-- Reads a value, after white space. -/
def readValue (s : List Char) : Option (Reading Json s) :=
  match h : skipSpace s with
  | 'n' :: 'u' :: 'l' :: 'l' :: rest =>
    some ⟨.null, rest, shorter_of_skipSpace h (shorter_of_cons (Nat.le_add_right _ 3))⟩
  | 't' :: 'r' :: 'u' :: 'e' :: rest =>
    some ⟨.bool true, rest, shorter_of_skipSpace h (shorter_of_cons (Nat.le_add_right _ 3))⟩
  | 'f' :: 'a' :: 'l' :: 's' :: 'e' :: rest =>
    some ⟨.bool false, rest, shorter_of_skipSpace h (shorter_of_cons (Nat.le_add_right _ 4))⟩
  | '"' :: rest => do
    let text ← readString rest
    some ⟨.string (String.ofList text.value), text.rest,
      shorter_of_skipSpace h (shorter_of_cons (Nat.le_of_lt text.shorter))⟩
  | '[' :: rest =>
    have hs : rest.length < s.length := shorter_of_skipSpace h (shorter_of_cons (Nat.le_refl _))
    match h' : skipSpace rest with
    | ']' :: after => some ⟨.array [], after,
        Nat.lt_trans (shorter_of_skipSpace h' (shorter_of_cons (Nat.le_refl _))) hs⟩
    | _ => do
      let items ← readItems rest
      some ⟨.array items.value, items.rest, Nat.lt_trans items.shorter hs⟩
  | '{' :: rest =>
    have hs : rest.length < s.length := shorter_of_skipSpace h (shorter_of_cons (Nat.le_refl _))
    match h' : skipSpace rest with
    | '}' :: after => some ⟨.object [], after,
        Nat.lt_trans (shorter_of_skipSpace h' (shorter_of_cons (Nat.le_refl _))) hs⟩
    | _ => do
      let members ← readMembers rest
      some ⟨.object members.value, members.rest, Nat.lt_trans members.shorter hs⟩
  | cs => do
    let number ← readNumber cs
    some ⟨number.value, number.rest, shorter_of_skipSpace h number.shorter⟩
termination_by 2 * s.length

/-- Reads the items of an array, one at least, up to the closing bracket. -/
def readItems (s : List Char) : Option (Reading (List Json) s) := do
  let item ← readValue s
  match h : skipSpace item.rest with
  | ']' :: rest => some ⟨[item.value], rest,
      Nat.lt_trans (shorter_of_skipSpace h (shorter_of_cons (Nat.le_refl _))) item.shorter⟩
  | ',' :: rest =>
    have hs : rest.length < s.length :=
      Nat.lt_trans (shorter_of_skipSpace h (shorter_of_cons (Nat.le_refl _))) item.shorter
    let items ← readItems rest
    some ⟨item.value :: items.value, items.rest, Nat.lt_trans items.shorter hs⟩
  | _ => none
termination_by 2 * s.length + 1

/-- Reads the members of an object, one at least, up to the closing brace. -/
def readMembers (s : List Char) : Option (Reading (List (String × Json)) s) :=
  match h : skipSpace s with
  | '"' :: rest => do
    let name ← readString rest
    match h' : skipSpace name.rest with
    | ':' :: rest' =>
      have hs : rest'.length < s.length :=
        Nat.lt_trans (shorter_of_skipSpace h' (shorter_of_cons (Nat.le_refl _)))
          (shorter_of_skipSpace h (shorter_of_cons (Nat.le_of_lt name.shorter)))
      let item ← readValue rest'
      have hi : item.rest.length < s.length := Nat.lt_trans item.shorter hs
      match h'' : skipSpace item.rest with
      | '}' :: after => some ⟨[(String.ofList name.value, item.value)], after,
          Nat.lt_trans (shorter_of_skipSpace h'' (shorter_of_cons (Nat.le_refl _))) hi⟩
      | ',' :: after =>
        have ha : after.length < s.length :=
          Nat.lt_trans (shorter_of_skipSpace h'' (shorter_of_cons (Nat.le_refl _))) hi
        let members ← readMembers after
        some ⟨(String.ofList name.value, item.value) :: members.value, members.rest,
          Nat.lt_trans members.shorter ha⟩
      | _ => none
    | _ => none
  | _ => none
termination_by 2 * s.length

end

/-- Reads a text that holds one value and nothing else. -/
def ofText? (s : String) : Option Json := do
  let value ← readValue s.toList
  if skipSpace value.rest = [] then some value.value else none

end RecordGateway.Json
