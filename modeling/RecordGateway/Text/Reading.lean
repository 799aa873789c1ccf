/-!
# Readings

What a reader takes from the start of a text: a value, and the rest of the text, which is
shorter.  A reader that hands out readings can be repeated and nested, and still ends.
-/

namespace RecordGateway.Text

/-- Something read from the start of `s`, and what is left of `s`. -/
structure Reading (α : Type) (s : List Char) where
  value : α
  rest : List Char
  shorter : rest.length < s.length

/-- A value and a rest as a reading, provided that the rest is shorter than the text. -/
def Reading.ofPair? {α : Type} (s : List Char) (pair : α × List Char) : Option (Reading α s) :=
  if h : pair.2.length < s.length then some ⟨pair.1, pair.2, h⟩ else none

/-- The same reading of another value. -/
def Reading.map {α β : Type} {s : List Char} (f : α → β) (r : Reading α s) : Reading β s :=
  ⟨f r.value, r.rest, r.shorter⟩

end RecordGateway.Text
