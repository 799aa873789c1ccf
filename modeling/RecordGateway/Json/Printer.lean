import RecordGateway.Json.Basic

/-!
# Writing JSON

A value is written without white space.  In strings the quote, the backslash and the control
characters are escaped, everything else stands for itself.
-/

namespace RecordGateway.Json

/-- A character as it is written inside a string. -/
def escapeChar (c : Char) : List Char :=
  if c = '"' then ['\\', '"']
  else if c = '\\' then ['\\', '\\']
  else if c.toNat < 0x20 then '\\' :: 'u' :: Text.hexDigits 4 c.toNat
  else [c]

/-- A string with its quotes. -/
def quote (s : String) : String :=
  String.ofList ('"' :: s.toList.flatMap escapeChar ++ ['"'])

mutual

/-- The text of a value. -/
def render : Json → String
  | null => "null"
  | bool true => "true"
  | bool false => "false"
  | number text => text
  | string s => quote s
  | array items => "[" ++ renderItems items ++ "]"
  | object members => "\x7b" ++ renderMembers members ++ "\x7d"

/-- The texts of some values, separated by commas. -/
def renderItems : List Json → String
  | [] => ""
  | [item] => render item
  | item :: rest => render item ++ "," ++ renderItems rest

/-- The texts of some members, separated by commas. -/
def renderMembers : List (String × Json) → String
  | [] => ""
  | [(name, item)] => quote name ++ ":" ++ render item
  | (name, item) :: rest => quote name ++ ":" ++ render item ++ "," ++ renderMembers rest

end

end RecordGateway.Json
