/-!
# White space

The characters with the Unicode property `White_Space`, and the three ways in which texts are
cut at them: trimming both ends, splitting at a separator, and splitting into words.  All
functions work on lists of characters; the `String` versions are thin wrappers.
-/

namespace RecordGateway.Text

/-- A character with the Unicode property `White_Space`. -/
def isBlank (c : Char) : Bool :=
  ('\t' ≤ c && c ≤ '\r') || c == ' ' || c == '\u0085' || c == '\u00a0' || c == '\u1680' ||
    ('\u2000' ≤ c && c ≤ '\u200a') || c == '\u2028' || c == '\u2029' || c == '\u202f' ||
    c == '\u205f' || c == '\u3000'

/-- The text without the white space at its start. -/
def trimStart (cs : List Char) : List Char :=
  cs.dropWhile isBlank

/-- The text without the white space at its end. -/
def trimEnd (cs : List Char) : List Char :=
  (cs.reverse.dropWhile isBlank).reverse

/-- The text without the white space at either end. -/
def trim (cs : List Char) : List Char :=
  trimEnd (trimStart cs)

/-- The pieces of a text between the characters that satisfy `sep`; there is always one piece
more than there are separators. -/
def split (sep : Char → Bool) : List Char → List (List Char)
  | [] => [[]]
  | c :: rest =>
    if sep c then [] :: split sep rest
    else match split sep rest with
      | [] => [[c]]
      | piece :: pieces => (c :: piece) :: pieces

/-- The maximal runs of characters that are not white space. -/
def words (cs : List Char) : List (List Char) :=
  (split isBlank cs).filter (· ≠ [])

/-- A string without the white space at either end. -/
def trimmed (s : String) : String :=
  String.ofList (trim s.toList)

/-- A string that holds nothing but white space. -/
def onlyBlanks (s : String) : Bool :=
  s.toList.all isBlank

end RecordGateway.Text
