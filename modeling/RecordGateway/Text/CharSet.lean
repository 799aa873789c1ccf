import RecordGateway.Text.Blank
import RecordGateway.Text.Digits

/-!
# Sets of characters

A set of characters is written as a text: the hexadecimal numbers of its characters, a hyphen
between the first and the last of a run, and blanks between the runs.
-/

namespace RecordGateway.Text

/-- The words of a table that may take many lines. -/
def tableWords (table : String) : List (List Char) :=
  (table.splitOn "\n").flatMap fun line => words line.toList

/-- Characters that follow each other, given by the numbers of the first and the last one. -/
structure CharRun where
  first : Nat
  last : Nat
deriving DecidableEq

/-- The run that a word stands for. -/
def CharRun.ofChars? (word : List Char) : Option CharRun :=
  match split (· == '-') word with
  | [only] => (hexNatural? only).map fun n => ⟨n, n⟩
  | [first, last] => do return ⟨← hexNatural? first, ← hexNatural? last⟩
  | _ => none

/-- Whether a character belongs to a run. -/
def CharRun.contains (run : CharRun) (c : Char) : Bool :=
  run.first ≤ c.toNat && c.toNat ≤ run.last

/-- A set of characters. -/
structure CharSet where
  runs : List CharRun

/-- The set that a text stands for. -/
def CharSet.ofText (table : String) : CharSet :=
  ⟨(tableWords table).filterMap CharRun.ofChars?⟩

/-- Whether a character belongs to a set. -/
def CharSet.contains (set : CharSet) (c : Char) : Bool :=
  set.runs.any fun run => run.contains c

/-- A character of ASCII. -/
def isAscii (c : Char) : Bool :=
  c.toNat < 0x80

end RecordGateway.Text
