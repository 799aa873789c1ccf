import RecordGateway.Text.Digits

/-!
# Percent encoding

Characters that may not stand for themselves in a part of an address are written as their UTF-8
octets, each as a percent sign and two hexadecimal digits.  Control characters and everything
outside ASCII are always encoded; which further characters are depends on the part.
-/

namespace RecordGateway.Url.Percent

/-- An octet in its encoded form. -/
def encodeOctet (octet : UInt8) : List Char :=
  '%' :: (Text.hexDigits 2 octet.toNat).map Char.toUpper

/-- A text with the control characters, everything outside ASCII, and the characters of `reserved`
encoded. -/
def encode (reserved : List Char) (cs : List Char) : List Char :=
  cs.flatMap fun c =>
    if c.toNat < 0x20 || 0x7e < c.toNat || reserved.contains c then
      (String.utf8EncodeChar c).flatMap encodeOctet
    else [c]

/-- The octets of a text in which encoded octets are decoded. -/
def decode : List Char → List UInt8
  | [] => []
  | '%' :: a :: b :: rest => match Text.hexDigit? a, Text.hexDigit? b with
    | some x, some y => .ofNat (16 * x + y) :: decode rest
    | _, _ => .ofNat '%'.toNat :: decode (a :: b :: rest)
  | c :: rest => String.utf8EncodeChar c ++ decode rest

/-- The characters encoded in a fragment. -/
def fragmentReserved : List Char := [' ', '"', '<', '>', '\u0060']

/-- The characters encoded in a path. -/
def pathReserved : List Char := fragmentReserved ++ ['#', '?', '\x7b', '\x7d']

/-- The characters encoded in a user name or a password. -/
def userReserved : List Char :=
  pathReserved ++ ['/', ':', ';', '=', '@', '[', '\\', ']', '^', '|']

/-- The characters encoded in a query. -/
def queryReserved : List Char := [' ', '"', '#', '<', '>', '\'']

end RecordGateway.Url.Percent
