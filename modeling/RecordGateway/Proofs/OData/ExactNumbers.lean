import RecordGateway.OData.Lowering
import RecordGateway.Proofs.OData.Numbers
import RecordGateway.Proofs.Value.Order

/-!
# Number literals keep their value

A number literal whose digits are an integer below `2 ^ 96`, with at most twenty-eight places, has a
value, and the value is the number itself: an integer with these digits, or a decimal with these
digits and these places.  Nothing is rounded on the way through its text, in whichever of the three
notations that is.  A literal whose integer part is `2 ^ 96` or more is refused.

Both bounds are those of decimals.  Digits are read one by one, and what has been read is at no time
more than what is read in the end; so if the whole fits, every digit does, and the rule that rounds
a digit that does not fit never applies.
-/

namespace RecordGateway

open Text

/-! ### Decimals that are read exactly -/

namespace Decimal

/-- Digits behind the point are all read, if the number that they make up fits. -/
lemma readDigits_fraction {m k : Nat} {cs : List Char} (hcs : OnlyDigits cs)
    (hm : Nat.ofDigitChars 10 cs m < mantissaBound) (hk : k + cs.length ≤ maxScale) :
    readDigits true true ⟨m, k⟩ cs = some ⟨Nat.ofDigitChars 10 cs m, k + cs.length⟩ := by
  induction cs generalizing m k with
  | nil => rfl
  | cons c cs ih =>
    rw [List.length_cons, Nat.add_comm cs.length, ← Nat.add_assoc] at hk ⊢
    rw [Nat.ofDigitChars_cons, Nat.mul_comm 10 m] at hm ⊢
    have hmantissa := Nat.lt_of_le_of_lt (le_ofDigitChars cs _) hm
    have hscale : k + 1 ≤ maxScale := Nat.le_trans (Nat.le_add_right _ _) hk
    rw [readDigits_digit hcs.head, if_pos ⟨hmantissa, hscale⟩]
    exact ih hcs.tail hm hk

variable {c : Char} {cs ds : List Char}

/-- An integer below `2 ^ 96` is read with all of its digits. -/
lemma ofPlain?_whole (h : OnlyDigits (c :: cs))
    (hlt : Nat.ofDigitChars 10 (c :: cs) 0 < mantissaBound) :
    ofPlain? (c :: cs) = ofParts? false (Nat.ofDigitChars 10 (c :: cs) 0) 0 := by
  have hread := readDigits_whole false (m := 0) (by decide) h []
  rw [List.append_nil, if_pos hlt] at hread
  rw [ofPlain?_of_isDigit h.head, hread]
  rfl

/-- A number with a point whose digits and places fit is read with all of them. -/
lemma ofPlain?_point (hcs : OnlyDigits (c :: cs)) (hds : OnlyDigits ds)
    (hlt : Nat.ofDigitChars 10 (c :: cs ++ ds) 0 < mantissaBound) (hplaces : ds.length ≤ maxScale) :
    ofPlain? (c :: cs ++ '.' :: ds) =
      ofParts? false (Nat.ofDigitChars 10 (c :: cs ++ ds) 0) ds.length := by
  rw [Nat.ofDigitChars_append] at hlt
  have hwhole := Nat.lt_of_le_of_lt (le_ofDigitChars ds _) hlt
  have hread := readDigits_whole false (m := 0) (by decide) hcs ('.' :: ds)
  rw [if_pos hwhole, readDigits_other (by decide), if_pos ⟨rfl, rfl⟩] at hread
  have hfraction := readDigits_fraction (k := 0) hds hlt (by rwa [Nat.zero_add])
  rw [Nat.zero_add] at hfraction
  rw [Nat.ofDigitChars_append, List.cons_append, ofPlain?_of_isDigit hcs.head, ← List.cons_append,
    hread]
  exact congrArg (Option.bind · _) hfraction

/-- The parts of a decimal that is not negative. -/
lemma ofParts?_eq_some {m scale : Nat} {d : Decimal} (h : ofParts? false m scale = some d) :
    d.negative = false ∧ d.mantissa = m ∧ d.scale = scale := by
  unfold ofParts? at h
  split at h
  · cases h
    exact ⟨rfl, rfl, rfl⟩
  · cases h

/-- A decimal is divided by a power of ten without rounding if the places suffice. -/
lemma shrink?_of_le (d : Decimal) {e : Nat} (he : d.scale + e ≤ maxScale) :
    d.shrink? e = ofParts? d.negative d.mantissa (d.scale + e) := by
  rw [shrink?, if_neg (Nat.not_lt.mpr (Nat.le_of_add_left_le he)), if_pos he]

/-- A decimal that is not negative stands for its digits over its places. -/
lemma toRat_of_not_negative {d : Decimal} (h : d.negative = false) :
    d.toRat = d.mantissa / 10 ^ d.scale := by
  rw [toRat, signed, if_neg (by rw [h]; exact Bool.false_ne_true), Int.cast_natCast]

end Decimal

/-- The number that a value stands for. -/
def Value.toRat? : Value → Option ℚ
  | int i => some i.toInt
  | decimal d => some d.toRat
  | _ => none

namespace OData.NumberLiteral

variable {n : NumberLiteral}

/-! ### Integers -/

/-- The 64-bit integer of a natural number. -/
lemma int64?_natCast_eq_some {m : Nat} {i : Int64} :
    RecordGateway.int64? m = some i ↔ m < 2 ^ 63 ∧ i.toInt = m := by
  unfold RecordGateway.int64?
  constructor
  · intro h
    split at h
    case isTrue hrange =>
      cases h
      exact ⟨by omega, Int64.toInt_ofInt_of_le (by omega) (by omega)⟩
    case isFalse => cases h
  · rintro ⟨hlt, hi⟩
    rw [if_pos (by omega), ← hi, Int64.ofInt_toInt]

/-- The text of a literal with places, other than zero, has more than digits. -/
lemma int64?_toChars_eq_none (hzero : n.digits ≠ 0) (hplaces : n.places ≠ 0) :
    int64? n.toChars = none := by
  obtain ⟨c, cs, hdigits⟩ := exists_decimalDigits_eq_cons n.digits
  have hc : isDigit c = true := (hdigits ▸ onlyDigits_decimalDigits n.digits).head
  rw [toChars, if_neg hzero]
  split
  case isTrue =>
    obtain ⟨rest, hpointed, -⟩ := exists_pointed_eq c cs
    rw [hdigits, hpointed, List.cons_append]
    exact int64?_eq_none hc ⟨'E', by simp, rfl⟩
  case isFalse =>
    obtain ⟨c, cs, d, ds, hplaced, hcs, -⟩ :=
      Decimal.exists_placed_eq (Nat.pos_of_ne_zero hplaces) n.digits
    rw [hplaced, List.cons_append]
    exact int64?_eq_none hcs.head ⟨'.', by simp, rfl⟩

/-- The text of a literal is that of a 64-bit integer if the literal is zero, or has no places and
is less than `2 ^ 63`. -/
lemma int64?_toChars_eq_some {i : Int64} : int64? n.toChars = some i ↔
    (n.digits = 0 ∨ n.places = 0 ∧ n.digits < 2 ^ 63) ∧ i.toInt = n.digits := by
  by_cases hzero : n.digits = 0
  · have htext : n.toChars = decimalDigits 0 := if_pos hzero
    rw [htext, int64?_decimalDigits, int64?_natCast_eq_some, hzero]
    simp
  by_cases hplaces : n.places = 0
  · rw [toChars_integer hplaces, int64?_decimalDigits, int64?_natCast_eq_some]
    simp [hzero, hplaces]
  · simp [int64?_toChars_eq_none hzero hplaces, hzero, hplaces]

/-! ### Decimals -/

/-- Digits with a point behind the first one are read with all places. -/
lemma ofPlain?_pointed {c : Char} {cs : List Char} (h : OnlyDigits (c :: cs))
    (hlt : Nat.ofDigitChars 10 (c :: cs) 0 < Decimal.mantissaBound)
    (hplaces : cs.length ≤ Decimal.maxScale) : Decimal.ofPlain? (pointed (c :: cs)) =
      Decimal.ofParts? false (Nat.ofDigitChars 10 (c :: cs) 0) cs.length := by
  cases cs with
  | nil => exact Decimal.ofPlain?_whole h hlt
  | cons d ds =>
    have hfirst : OnlyDigits [c] := .cons h.head .nil
    exact Decimal.ofPlain?_point hfirst h.tail hlt hplaces

/-- Whether the digits and the places of a literal fit into a decimal. -/
def Fits (n : NumberLiteral) : Prop :=
  n.digits < 2 ^ 96 ∧ n.places ≤ 28

/-- The text of a literal that fits is read as the decimal with its digits and places, in whichever
notation it is written. -/
theorem ofChars?_toChars (hzero : n.digits ≠ 0) (h : n.Fits) :
    Decimal.ofChars? n.toChars = Decimal.ofParts? false n.digits n.places := by
  obtain ⟨hdigits, hplaces⟩ := h
  have hbound : Decimal.mantissaBound = 2 ^ 96 := rfl
  have hmax : Decimal.maxScale = 28 := rfl
  obtain ⟨c, cs, hn⟩ := exists_decimalDigits_eq_cons n.digits
  have hcs := onlyDigits_decimalDigits n.digits
  have hvalue : Nat.ofDigitChars 10 (decimalDigits n.digits) 0 = n.digits :=
    Nat.ofDigitChars_ten_toDigits
  rw [hn] at hcs hvalue
  by_cases hinteger : n.places = 0
  · rw [toChars_integer hinteger, hn, Decimal.ofChars?_eq_ofPlain? fun c hc => .inl (hcs c hc),
      Decimal.ofPlain?_whole hcs (by omega), hvalue, hinteger]
  rw [toChars, if_neg hzero]
  split
  case isTrue hsmall =>
    -- an exponent is written only where the digits are few, so that they and the point are exact
    have hzeros : maxLeadingZeros = 5 := rfl
    rw [hn, List.length_cons] at hsmall ⊢
    have hparts : Decimal.ofParts? false n.digits cs.length = some _ :=
      dif_pos ⟨hdigits, by omega⟩
    have hread := ofPlain?_pointed hcs (by omega) (by omega)
    rw [hvalue, hparts] at hread
    obtain ⟨hnegative, hmantissa, hscale⟩ := Decimal.ofParts?_eq_some hparts
    rw [ofChars?_scientific hcs hread, Decimal.exponent?_decimalDigits,
      if_pos (by have : UInt32.size = 2 ^ 32 := rfl; omega), Option.bind_some,
      Decimal.shrink?_of_le _ (by rw [hscale]; omega), hnegative, hmantissa, hscale]
    congr 1
    omega
  case isFalse =>
    obtain ⟨c, cs, d, ds, hplaced, hcs, hds, hlength, hvalue⟩ :=
      Decimal.exists_placed_eq (Nat.pos_of_ne_zero hinteger) n.digits
    rw [hplaced, Decimal.ofChars?_eq_ofPlain? (readable_point hcs hds),
      Decimal.ofPlain?_point hcs hds (by omega) (by rw [List.length_cons]; omega), hvalue,
      List.length_cons, hlength]

/-! ### Values -/

/-- Whether a value consists of the digits of a literal: an integer, or a decimal that has the
places of the literal as well. -/
inductive HasDigits (n : NumberLiteral) : Value → Prop
  | int {i : Int64} : n.digits = 0 ∨ n.places = 0 → i.toInt = n.digits → HasDigits n (.int i)
  | decimal {d : Decimal} : d.negative = false → d.mantissa = n.digits → d.scale = n.places →
      HasDigits n (.decimal d)

/-- A value with the digits of a literal stands for the same number. -/
lemma HasDigits.toRat?_eq {value : Value} (h : n.HasDigits value) :
    value.toRat? = some n.toRat := by
  cases h with
  | int hplaces hi =>
    rw [Value.toRat?, hi, toRat, Int.cast_natCast]
    rcases hplaces with hzero | hplaces
    · rw [hzero, Nat.cast_zero, zero_div]
    · rw [hplaces, pow_zero, div_one]
  | decimal hnegative hmantissa hscale =>
    rw [Value.toRat?, Decimal.toRat_of_not_negative hnegative, hmantissa, hscale, toRat]

/-- A literal that fits has a value with its digits, which is an integer if its text is one. -/
theorem exists_hasDigits (h : n.Fits) : ∃ value, n.toValue? = some value ∧ n.HasDigits value ∧
    ((∃ i, value = .int i) ↔ ∃ i, int64? n.toChars = some i) := by
  unfold toValue?
  cases hint : int64? n.toChars with
  | some i =>
    obtain ⟨hplaces, hi⟩ := int64?_toChars_eq_some.mp hint
    exact ⟨_, rfl, .int (hplaces.imp_right And.left) hi, iff_of_true ⟨i, rfl⟩ ⟨i, rfl⟩⟩
  | none =>
    have hzero : n.digits ≠ 0 := by
      intro hzero
      have hsome : int64? n.toChars = some 0 :=
        int64?_toChars_eq_some.mpr ⟨.inl hzero, by rw [hzero]; rfl⟩
      cases hint.symm.trans hsome
    have hparts : Decimal.ofParts? false n.digits n.places = some _ := dif_pos h
    obtain ⟨hnegative, hmantissa, hscale⟩ := Decimal.ofParts?_eq_some hparts
    rw [ofChars?_toChars hzero h, hparts]
    refine ⟨_, rfl, .decimal hnegative hmantissa hscale, ?_⟩
    exact iff_of_false (fun ⟨i, hi⟩ => nomatch hi) fun ⟨i, hi⟩ => nomatch hi

/-- A literal whose integer part is not less than `2 ^ 96` has no value. -/
lemma toValue?_eq_none (h : 2 ^ 96 ≤ n.digits / 10 ^ n.places) : n.toValue? = none := by
  refine Option.eq_none_iff_forall_ne_some.mpr fun value hvalue => ?_
  have hpos : 0 < 10 ^ n.places := Nat.pow_pos (by decide)
  have hle := (Nat.le_div_iff_mul_le hpos).mp h
  rcases representable_iff.mp (n.exists_toValue?_iff_representable.mp ⟨value, hvalue⟩) with
    hzero | ⟨-, hlt⟩
  · rw [hzero, Nat.zero_div] at h
    exact absurd h (by decide)
  · rw [Nat.mul_assoc] at hlt
    omega

/-- What becomes of the number that a literal stands for. -/
structure KeepsNumber (n : NumberLiteral) : Prop where
  /-- A literal that fits denotes the number itself, an integer if the text of the literal is one of
  64 bits, and a decimal otherwise. -/
  exact : n.Fits → ∃ value, (Literal.number n).lower = .ok value ∧ value.toRat? = some n.toRat ∧
    ((∃ i, value = .int i) ↔ ∃ i, int64? n.toChars = some i) ∧
    ((∃ d, value = .decimal d) ↔ ¬∃ i, int64? n.toChars = some i)
  /-- The text is an integer of 64 bits if the number is zero, or has no places and is less than
  `2 ^ 63`. -/
  integer_iff : (∃ i, int64? n.toChars = some i) ↔
    n.digits = 0 ∨ n.places = 0 ∧ n.digits < 2 ^ 63
  /-- A literal whose integer part is `2 ^ 96` or more is refused with its text. -/
  refused : 2 ^ 96 ≤ n.digits / 10 ^ n.places →
    (Literal.number n).lower = .error (.unsupportedLiteral n.toText)

/-- **Number literals keep their value.**  A literal whose digits and places fit into a decimal
denotes exactly the number that it stands for, and one whose integer part does not fit is
refused. -/
theorem keepsNumber (n : NumberLiteral) : n.KeepsNumber where
  exact h := by
    obtain ⟨value, hvalue, hdigits, hint⟩ := exists_hasDigits h
    refine ⟨value, by rw [Literal.lower, hvalue], hdigits.toRat?_eq, hint, ?_⟩
    rw [← hint]
    cases hdigits <;> simp
  integer_iff := by
    constructor
    · rintro ⟨i, hi⟩
      exact (int64?_toChars_eq_some.mp hi).1
    · intro h
      have hlt : n.digits < 2 ^ 63 := h.elim (fun hzero => by omega) And.right
      exact ⟨.ofInt n.digits, int64?_toChars_eq_some.mpr
        ⟨h, Int64.toInt_ofInt_of_le (by omega) (by omega)⟩⟩
  refused h := by rw [Literal.lower, toValue?_eq_none h]

/-- The least positive decimal is written with an exponent and keeps its places. -/
example : toValue? ⟨1, 28⟩ = (Decimal.ofParts? false 1 28).map .decimal := rfl

/-- The first integer that is no decimal is refused with its digits. -/
example : (Literal.number ⟨2 ^ 96, 0⟩).lower =
    .error (.unsupportedLiteral "79228162514264337593543950336") := rfl

end OData.NumberLiteral

end RecordGateway
