import RecordGateway.Text.Composition
import RecordGateway.Text.Joining
import RecordGateway.Url.Domain.Folding
import RecordGateway.Url.Domain.Punycode

/-!
# Domain names

A domain name is a sequence of labels with dots between them.  Names are compared in one form: all
characters folded and composed, and labels with characters outside ASCII written in ASCII behind
a mark.  A label that already has the mark has to be the form of a label that is folded and
composed.  A name is refused if it holds a character that names cannot have, if a label starts with
a mark on a letter or holds a joiner without a meaning, or if it has characters from both writing
directions in a confusing order.
-/

namespace RecordGateway.Url.Domain

open Text (isAscii)

/-- What the labels written in ASCII start with. -/
def formMark : List Char := "xn--".toList

/-- A character of ASCII that a name cannot have. -/
def forbidden (c : Char) : Bool :=
  c.toNat ≤ 0x20 || c.toNat = 0x7f || "%#/:<>?@[\\]^|".toList.contains c

/-- A label of a name. -/
structure Label where
  /-- The label as it is read. -/
  text : List Char
  /-- The form of the label in ASCII. -/
  form : List Char

/-- Whether a label that is read has characters that a label can have, in places where it can have
them. -/
def isSound (text : List Char) : Bool :=
  !text.any forbidden && !(text.head?.any Text.isMark) && Text.joinersMeaningful [] text

/-- The label that folded and composed characters stand for. -/
def label? (cs : List Char) : Option Label :=
  if formMark.isPrefixOf cs then do
    let text ← if cs.all isAscii then Punycode.decode? (cs.drop formMark.length) else none
    if !text.all isAscii && text.all isFolded && Text.composed text == text && isSound text then
      some ⟨text, cs⟩
    else none
  else if isSound cs then
    some ⟨cs, if cs.all isAscii then cs else formMark ++ Punycode.encode cs⟩
  else none

/-- Whether the labels of a name can be told apart in every writing direction. -/
def isConsistent (labels : List Label) : Bool :=
  !(labels.any fun l => Text.Direction.turns l.text) ||
    labels.all fun l => Text.Direction.consistent l.text

/-- The form of a name that it is compared by, in ASCII. -/
def normal? (name : List Char) : Option (List Char) := do
  let folded := (← name.mapM fold?).flatten
  let labels ← (Text.split (· == '.') (Text.composed folded)).mapM label?
  if isConsistent labels then some (List.intercalate ['.'] (labels.map Label.form)) else none

end RecordGateway.Url.Domain
