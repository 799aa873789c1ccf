import RecordGateway.Text.Digits

/-!
# JSON values

The values of the JSON data format.  Numbers keep the text they were written with, so that
integers of any size stay exact and `5.0` is not taken for an integer; objects keep the order
and the repetitions of their members.
-/

namespace RecordGateway

/-- A value of the JSON data format. -/
inductive Json where
  | null
  | bool (b : Bool)
  /-- A number as it is written. -/
  | number (text : String)
  | string (s : String)
  | array (items : List Json)
  | object (members : List (String × Json))

namespace Json

instance : Inhabited Json := ⟨null⟩

/-- An integer as a JSON number. -/
def ofInt (n : Int) : Json :=
  number (toString n)

/-- A natural number as a JSON number. -/
def ofNat (n : Nat) : Json :=
  number (toString n)

/-- A value if there is one, null otherwise. -/
def ofOption {α : Type} (wrap : α → Json) : Option α → Json
  | some a => wrap a
  | none => null

/-- An optional string as JSON. -/
def ofOptionalString (s : Option String) : Json :=
  ofOption string s

/-- The member of an object with the given name; of several the last. -/
def member? (name : String) : Json → Option Json
  | object members => members.reverse.lookup name
  | _ => none

/-- The string of a value that is one. -/
def asString? : Json → Option String
  | string s => some s
  | _ => none

/-- The truth value of a value that is one. -/
def asBool? : Json → Option Bool
  | bool b => some b
  | _ => none

/-- The items of a value that is an array. -/
def asArray? : Json → Option (List Json)
  | array items => some items
  | _ => none

/-- The integer of a number written without point and exponent; a negative zero is none. -/
def asInt? : Json → Option Int
  | number text => if text = "-0" then none else Text.integer? text.toList
  | _ => none

/-- An optional content: null or nothing at all stand for none. -/
def optional? {α : Type} (read : Json → Option α) : Option Json → Option (Option α)
  | none | some .null => some none
  | some j => (read j).map some

/-- An optional array: null or nothing at all stand for no items. -/
def optionalItems? {α : Type} (read : Json → Option α) (j : Option Json) : Option (List α) := do
  ((← optional? asArray? j).getD []).mapM read

/-- The natural number of a number below a bound. -/
def naturalBelow? (bound : Nat) (j : Json) : Option Nat := do
  let n ← j.asInt?
  if 0 ≤ n ∧ n < bound then some n.toNat else none

/-- Whether a value is null. -/
def isNull : Json → Bool
  | null => true
  | _ => false

end Json

end RecordGateway
