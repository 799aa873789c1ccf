import RecordGateway.Decimal.Reading

/-!
# Shortest decimal text of a binary number

A positive number read into a 53-bit binary significand stands for every real number that
rounds to it.  Its shortest text has the fewest digits among those that read back, and of two
such texts the one nearer to the number.  The search goes through the decimal grids of one, two,
… seventeen digits and tests on each the two neighbours of the number, in exact arithmetic of
natural numbers.
-/

namespace RecordGateway.Decimal.Shortest

/-- A positive binary number `significand * 2 ^ exponent` with at most 53 bits. -/
structure Binary where
  significand : Nat
  exponent : Int
deriving DecidableEq

/-- A non-negative fraction. -/
structure Ratio where
  num : Nat
  den : Nat
deriving DecidableEq

/-- The fraction `n * base ^ e`. -/
def Ratio.scaled (n base : Nat) (e : Int) : Ratio :=
  match e with
  | .ofNat k => ⟨n * Nat.pow base k, 1⟩
  | .negSucc k => ⟨n, Nat.pow base (k + 1)⟩

/-- The order of two fractions, by cross multiplication. -/
def Ratio.order (a b : Ratio) : Ordering :=
  compare (a.num * b.den) (b.num * a.den)

/-- The quotient of a fraction rounded to the nearest natural number, a tie to the even one. -/
def Ratio.roundEven (r : Ratio) : Nat :=
  let q := r.num / r.den
  match compare (2 * (r.num % r.den)) r.den with
  | .lt => q
  | .gt => q + 1
  | .eq => if q % 2 = 0 then q else q + 1

/-- The exponent that gives a positive fraction a significand of 53 bits, not below the smallest
exponent there is. -/
def Ratio.binaryExponent (r : Ratio) : Int :=
  let guess : Int := (Nat.log2 r.num : Int) - (Nat.log2 r.den : Int) - 52
  let at? (e : Int) : Bool := (Ratio.scaled 1 2 (e + 52)).order r != .gt
  max (if at? guess then guess else guess - 1) (-1074)

/-- The binary number nearest to a positive fraction, a tie to the even significand; `none` when
it rounds to zero. -/
def Binary.ofRatio? (r : Ratio) : Option Binary :=
  let e := r.binaryExponent
  let m := match e with
    | .ofNat k => (Ratio.mk r.num (r.den * Nat.pow 2 k)).roundEven
    | .negSucc k => (Ratio.mk (r.num * Nat.pow 2 (k + 1)) r.den).roundEven
  if m = 0 then none
  else if m = 0x20000000000000 then some ⟨0x10000000000000, e + 1⟩
  else some ⟨m, e⟩

/-- The fraction that a binary number is. -/
def Binary.ratio (b : Binary) : Ratio :=
  Ratio.scaled b.significand 2 b.exponent

/-- Whether the number is too large for the binary format. -/
def Binary.overflows (b : Binary) : Bool :=
  (Ratio.scaled 1 2 1024).order b.ratio != .gt

/-- The binary number nearest to the product of two; `none` when it rounds to zero. -/
def Binary.times? (a b : Binary) : Option Binary :=
  Binary.ofRatio? ⟨a.ratio.num * b.ratio.num, a.ratio.den * b.ratio.den⟩

/-- The binary number nearest to the quotient of two; `none` when it rounds to zero. -/
def Binary.divide? (a b : Binary) : Option Binary :=
  Binary.ofRatio? ⟨a.ratio.num * b.ratio.den, a.ratio.den * b.ratio.num⟩

/-- A fraction that rounds to the binary number. -/
def Binary.readsBack (b : Binary) (r : Ratio) : Bool :=
  Binary.ofRatio? r == some b

/-- The greatest `k` with `10 ^ k` at most the number. -/
def Binary.decimalExponent (b : Binary) : Int :=
  let r := b.ratio
  let digits : Int := ((Text.decimalDigits r.num).length : Int) - (Text.decimalDigits r.den).length
  if (Ratio.scaled 1 10 digits).order r != .gt then digits else digits - 1

/-- The neighbours of the number on the grid of multiples of `10 ^ k`, the nearer one first, of
two equally near ones the upper. -/
def Binary.neighbours (b : Binary) (k : Int) : List Nat :=
  let r := b.ratio
  let s : Ratio := match k with
    | .ofNat j => ⟨r.num, r.den * Nat.pow 10 j⟩
    | .negSucc j => ⟨r.num * Nat.pow 10 (j + 1), r.den⟩
  let q := s.num / s.den
  if 2 * (s.num % s.den) < s.den then [q, q + 1] else [q + 1, q]

/-- The shortest digits that read back, as a number and a power of ten, searched on the grids of
`n` and more digits.  Only the upper neighbour on the first grid can end in a zero, which is then
taken off. -/
def Binary.shortestFrom (b : Binary) : Nat → Nat → Nat × Int
  | 0, _ => (b.significand, b.exponent)
  | fuel + 1, n =>
    let k := b.decimalExponent - ((n : Int) - 1)
    match (b.neighbours k).find? fun m => m != 0 && b.readsBack (Ratio.scaled m 10 k) with
    | some m => if m % 10 = 0 then (m / 10, k + 1) else (m, k)
    | none => b.shortestFrom fuel (n + 1)

/-- The shortest digits that read back, as a number and a power of ten. -/
def Binary.shortest (b : Binary) : Nat × Int :=
  b.shortestFrom 17 1

/-- The characters of `m * 10 ^ k` in positional notation. -/
def positional (m : Nat) (k : Int) : List Char :=
  match k with
  | .ofNat j => Text.decimalDigits (m * Nat.pow 10 j)
  | .negSucc j => placed (j + 1) m

/-- The decimal that the shortest text of a signed binary number denotes; `none` stands for
zero. -/
def decimal? (negative : Bool) : Option Binary → Option Decimal
  | none => ofParts? false 0 0
  | some b =>
    let (m, k) := b.shortest
    ofPlain? ((if negative then ['-'] else []) ++ positional m k)

end RecordGateway.Decimal.Shortest
