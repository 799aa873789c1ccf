import RecordGateway.Text.Blank
import RecordGateway.Url.Domain
import RecordGateway.Url.Percent

/-!
# Hosts

The host of an address is a domain name in its normal form or a numeric address.  A name whose last
label is a number has to be an address of the fourth version of the Internet protocol, with one
to four parts, each decimal, octal or hexadecimal; addresses of the sixth version stand in
brackets.
-/

namespace RecordGateway

/-- Why a text is no usable address. -/
inductive UrlError where
  | relative
  | emptyHost
  | invalidPort
  | invalidIpv4
  | invalidIpv6
  | invalidDomain
  | forbiddenCharacter
  | unsupportedScheme (scheme : String)
deriving DecidableEq

/-- The error as a phrase. -/
def UrlError.message : UrlError → String
  | relative => "relative URL without a base"
  | emptyHost => "empty host"
  | invalidPort => "invalid port number"
  | invalidIpv4 => "invalid IPv4 address"
  | invalidIpv6 => "invalid IPv6 address"
  | invalidDomain => "invalid international domain name"
  | forbiddenCharacter => "invalid domain character"
  | unsupportedScheme scheme => "unsupported scheme '" ++ scheme ++ "'"

namespace Url

/-- The host of an address. -/
inductive Host where
  | domain (name : String)
  /-- An address as a number of 32 bits. -/
  | ipv4 (address : Nat)
  /-- An address as its eight pieces of 16 bits. -/
  | ipv6 (pieces : List Nat)
deriving DecidableEq

namespace Host

/-! ### Version four -/

/-- The number of a part: hexadecimal after `0x`, octal after another leading zero. -/
def ipv4Part? : List Char → Option Nat
  | [] => none
  | '0' :: 'x' :: digits | '0' :: 'X' :: digits => Text.valueFrom Text.hexDigit? 16 0 digits
  | '0' :: digits => Text.valueFrom (fun c => (Text.digit? c).filter (· < 8)) 8 0 digits
  | digits => Text.natural? digits

/-- The parts of a name, without the empty one after a final dot. -/
def labels (name : List Char) : List (List Char) :=
  let parts := Text.split (· == '.') name
  if parts.getLast? = some [] ∧ 1 < parts.length then parts.dropLast else parts

/-- Whether the last part of a name is a number, so that the name has to be an address. -/
def endsInNumber (name : List Char) : Bool :=
  match (labels name).getLast? with
  | some last => (last ≠ [] && last.all Text.isDigit) || (ipv4Part? last).isSome
  | none => false

/-- The number of the address whose parts in front of the last have the values `front`. -/
def ipv4OfParts? (front : List Nat) (last : Nat) : Option Nat :=
  if front.length ≤ 3 ∧ front.all (· < 256) ∧ last < Nat.pow 256 (4 - front.length) then
    some (front.foldl (fun n part => n * 256 + part) 0 * Nat.pow 256 (4 - front.length) + last)
  else none

/-- The address that a name is. -/
def ipv4? (name : List Char) : Option Nat := do
  let parts ← (labels name).mapM ipv4Part?
  ipv4OfParts? parts.dropLast (← parts.getLast?)

/-! ### Version six -/

/-- A piece: one to four hexadecimal digits. -/
def ipv6Piece? (digits : List Char) : Option Nat :=
  if digits.length ≤ 4 then Text.hexNatural? digits else none

/-- A decimal number below 256 without leading zeros. -/
def decimalOctet? (digits : List Char) : Option Nat :=
  if digits.length ≤ 3 ∧ (digits.head? ≠ some '0' ∨ digits.length = 1) then
    (Text.natural? digits).filter (· < 256)
  else none

/-- The two pieces that four decimal numbers with dots stand for. -/
def dottedPieces? (text : List Char) : Option (List Nat) := do
  match ← (Text.split (· == '.') text).mapM decimalOctet? with
  | [a, b, c, d] => some [a * 256 + b, c * 256 + d]
  | _ => none

/-- The pieces of some groups, of which the last may be in decimal. -/
def ipv6Groups? : List (List Char) → Option (List Nat)
  | [] => some []
  | [last] => if last.contains '.' then dottedPieces? last else (ipv6Piece? last).map ([·])
  | group :: rest => do return (← ipv6Piece? group) :: (← ipv6Groups? rest)

/-- The pieces of a text without a gap; the empty text has none. -/
def ipv6Pieces? (text : List Char) : Option (List Nat) :=
  if text = [] then some [] else ipv6Groups? (Text.split (· == ':') text)

/-- The text in front of the first two colons in a row and the text after them. -/
def splitAtGap? : List Char → Option (List Char × List Char)
  | [] => none
  | ':' :: ':' :: rest => some ([], rest)
  | c :: rest => (splitAtGap? rest).map fun p => (c :: p.1, p.2)

/-- The eight pieces of an address; a gap stands for as many zeros as are missing. -/
def ipv6? (text : List Char) : Option (List Nat) :=
  match splitAtGap? text with
  | none => (ipv6Pieces? text).filter (·.length = 8)
  | some (front, back) => do
    let front ← if front.contains '.' then none else ipv6Pieces? front
    let back ← ipv6Pieces? back
    if front.length + back.length ≤ 7 then
      some (front ++ List.replicate (8 - front.length - back.length) 0 ++ back)
    else none

/-- Pieces in hexadecimal with colons between them. -/
def piecesText (pieces : List Nat) : List Char :=
  List.intercalate [':'] (pieces.map fun piece => Nat.toDigits 16 piece)

/-- The number of zeros at the start. -/
def leadingZeros (pieces : List Nat) : Nat :=
  (pieces.takeWhile (· = 0)).length

/-- The place of the longest run of zeros, the first one of several, and its length. -/
def longestGap (pieces : List Nat) : Nat × Nat :=
  (List.range pieces.length).foldl
    (fun best start =>
      let length := leadingZeros (pieces.drop start)
      if best.2 < length then (start, length) else best)
    (0, 0)

/-- The text of an address, with the longest run of two or more zeros left out. -/
def ipv6Text (pieces : List Nat) : List Char :=
  let (start, length) := longestGap pieces
  if length < 2 then piecesText pieces
  else piecesText (pieces.take start) ++ [':', ':'] ++ piecesText (pieces.drop (start + length))

/-! ### Hosts in general -/

/-- The domain name that a text with encoded octets stands for. -/
def domainName? (text : List Char) : Option (List Char) := do
  Domain.normal? (← String.fromUTF8? ⟨(Percent.decode text).toArray⟩).toList

/-- The host of a text in an address of the web. -/
def ofChars (text : List Char) : Except UrlError Host :=
  match text with
  | '[' :: rest =>
    match (if rest.getLast? = some ']' then ipv6? rest.dropLast else none) with
    | some pieces => .ok (.ipv6 pieces)
    | none => .error .invalidIpv6
  | _ => match domainName? text with
    | none => .error .invalidDomain
    | some name =>
      if name = [] then .error .emptyHost
      else if endsInNumber name then match ipv4? name with
        | some address => .ok (.ipv4 address)
        | none => .error .invalidIpv4
      else .ok (.domain (String.ofList name))

/-- The text of a host. -/
def toChars : Host → List Char
  | domain name => name.toList
  | ipv4 address => List.intercalate ['.'] <|
      [address / 16777216, address / 65536 % 256, address / 256 % 256, address % 256].map
        Text.decimalDigits
  | ipv6 pieces => '[' :: ipv6Text pieces ++ [']']

end Host

end Url

end RecordGateway
