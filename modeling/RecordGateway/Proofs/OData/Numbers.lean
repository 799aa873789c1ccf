import Mathlib.Data.Rat.Cast.Order
import Mathlib.Tactic.FieldSimp
import Mathlib.Tactic.Lemma
import Mathlib.Tactic.Positivity
import RecordGateway.OData.Number
import RecordGateway.Proofs.Decimal.Reading

/-!
# Which number literals have a value

A number literal is read from its own text, as an integer, as a decimal in plain notation or as one
in scientific notation.  Which of the three notations its text is in depends on its digits, but
whether the literal has a value depends on the number only: it has to be zero, or to be at least
`10 ^ -28` and less than `2 ^ 96` after rounding to an integer.
-/

namespace RecordGateway.OData

open Text

namespace NumberLiteral

variable {n : NumberLiteral}

/-- The number that a literal stands for. -/
def toRat (n : NumberLiteral) : ℚ :=
  n.digits / 10 ^ n.places

/-- Whether a decimal comes close to the number: it is zero, or not less than the least positive
decimal, and after rounding to an integer not greater than the greatest decimal. -/
def Representable (n : NumberLiteral) : Prop :=
  n.toRat = 0 ∨ ((1 / 10 ^ 28 : ℚ) ≤ n.toRat ∧ n.toRat + 1 / 2 < 2 ^ 96)

/-- The bounds of a number by its digits and places. -/
lemma representable_iff : n.Representable ↔ n.digits = 0 ∨
    (10 ^ n.places ≤ n.digits * 10 ^ 28 ∧
      2 * n.digits + 10 ^ n.places < 2 * 2 ^ 96 * 10 ^ n.places) := by
  have hpos : (0 : ℚ) < 10 ^ n.places := by positivity
  refine or_congr ?_ (and_congr ?_ ?_)
  · rw [toRat, div_eq_zero_iff, or_iff_left hpos.ne', Nat.cast_eq_zero]
  · rw [toRat, div_le_div_iff₀ (by positivity) hpos, one_mul]
    exact_mod_cast Iff.rfl
  · rw [toRat, div_add_div _ _ hpos.ne' two_ne_zero, div_lt_iff₀ (by positivity),
      mul_comm _ (2 : ℚ), mul_one, mul_comm (10 ^ n.places : ℚ) 2, ← mul_assoc, mul_comm _ (2 : ℚ)]
    exact_mod_cast Iff.rfl

/-! ### Integers -/

/-- A text that begins with a digit is an integer only if all of it is digits. -/
lemma onlyDigits_of_int64? {c : Char} {cs : List Char} {i : Int64} (hc : isDigit c = true)
    (h : int64? (c :: cs) = some i) : OnlyDigits (c :: cs) := by
  obtain ⟨z, hz, -⟩ := Option.bind_eq_some_iff.mp h
  rw [integer?_of_isDigit hc] at hz
  obtain ⟨m, hm, -⟩ := Option.map_eq_some_iff.mp hz
  rw [natural?, if_neg (List.cons_ne_nil c cs)] at hm
  exact onlyDigits_of_valueFrom hm

/-- The digits of a number are an integer of 64 bits if the number is one. -/
lemma int64?_decimalDigits (m : Nat) : int64? (decimalDigits m) = RecordGateway.int64? m := by
  obtain ⟨c, cs, hm⟩ := exists_decimalDigits_eq_cons m
  have hdigits := onlyDigits_decimalDigits m
  have hread := natural?_decimalDigits m
  rw [hm] at hdigits hread ⊢
  rw [int64?, integer?_of_isDigit hdigits.head, hread, Option.map_some, Option.bind_some]
  rfl

/-- The value of a literal is an integer or a decimal. -/
lemma exists_toValue?_iff : (∃ v, n.toValue? = some v) ↔
    (∃ i, int64? n.toChars = some i) ∨ ∃ d, Decimal.ofChars? n.toChars = some d := by
  unfold toValue?
  cases int64? n.toChars with
  | some i => exact iff_of_true ⟨_, rfl⟩ (.inl ⟨i, rfl⟩)
  | none =>
    cases Decimal.ofChars? n.toChars with
    | some d => exact iff_of_true ⟨_, rfl⟩ (.inr ⟨d, rfl⟩)
    | none => simp

/-- A text that has more than digits is no integer. -/
lemma int64?_eq_none {c : Char} {cs : List Char} (hc : isDigit c = true)
    (hother : ∃ d ∈ cs, isDigit d = false) : int64? (c :: cs) = none := by
  refine Option.eq_none_iff_forall_ne_some.mpr fun i hi => ?_
  obtain ⟨d, hd, hother⟩ := hother
  rw [(onlyDigits_of_int64? hc hi).tail d hd] at hother
  cases hother

/-- The value of a literal whose text has more than digits is a decimal. -/
lemma exists_toValue?_iff_ofChars? {c : Char} {cs : List Char} (hn : n.toChars = c :: cs)
    (hc : isDigit c = true) (hother : ∃ d ∈ cs, isDigit d = false) :
    (∃ v, n.toValue? = some v) ↔ ∃ d, Decimal.ofChars? (c :: cs) = some d := by
  rw [exists_toValue?_iff, hn, int64?_eq_none hc hother]
  exact or_iff_right fun ⟨i, hi⟩ => nomatch hi

/-- A literal without places is written with its digits. -/
lemma toChars_integer (hplaces : n.places = 0) : n.toChars = decimalDigits n.digits := by
  unfold toChars
  split
  case isTrue hzero => rw [hzero]; rfl
  case isFalse =>
    rw [if_neg (by rw [hplaces, Nat.zero_sub]; decide), Decimal.placed, if_pos hplaces]

/-- A literal without places has a value if its digits are a decimal. -/
theorem exists_toValue?_integer (hplaces : n.places = 0) :
    (∃ v, n.toValue? = some v) ↔ n.digits < Decimal.mantissaBound := by
  have htext := toChars_integer hplaces
  obtain ⟨c, cs, hn⟩ := exists_decimalDigits_eq_cons n.digits
  have hdigits := onlyDigits_decimalDigits n.digits
  have hvalue : Nat.ofDigitChars 10 (decimalDigits n.digits) 0 = n.digits :=
    Nat.ofDigitChars_ten_toDigits
  rw [hn] at hdigits hvalue
  have hplain := Decimal.exists_ofPlain?_whole hdigits
  rw [exists_toValue?_iff, htext, int64?_decimalDigits, hn,
    Decimal.ofChars?_eq_ofPlain? fun c hc => .inl (hdigits c hc), hplain, hvalue]
  refine or_iff_right_of_imp ?_
  rintro ⟨i, hi⟩
  have hbound : Decimal.mantissaBound = 2 ^ 96 := rfl
  unfold RecordGateway.int64? at hi
  split at hi
  · omega
  · cases hi

/-! ### Numbers with places -/

/-- Digits around a point are digits and a point. -/
lemma readable_point {cs ds : List Char} (hcs : OnlyDigits cs) (hds : OnlyDigits ds) :
    ∀ c ∈ cs ++ '.' :: ds, isDigit c = true ∨ c = '.' := by
  intro c hc
  rcases List.mem_append.mp hc with hc | hc
  · exact .inl (hcs c hc)
  · exact (List.mem_cons.mp hc).symm.imp_left (hds c)

/-- A literal with places that is written without an exponent has a value if it is less than
`2 ^ 96` after rounding to an integer. -/
theorem exists_toValue?_places (hzero : n.digits ≠ 0) (hplaces : 0 < n.places)
    (hlarge : n.places - (decimalDigits n.digits).length ≤ maxLeadingZeros) :
    (∃ v, n.toValue? = some v) ↔
      n.digits / 10 ^ (n.places - 1) + 5 < 10 * Decimal.mantissaBound := by
  have htext : n.toChars = Decimal.placed n.places n.digits := by
    rw [toChars, if_neg hzero, if_neg (Nat.not_lt.mpr hlarge)]
  obtain ⟨c, cs, d, ds, hplaced, hcs, hds, hlength, hvalue⟩ :=
    Decimal.exists_placed_eq hplaces n.digits
  have hfirst : Nat.ofDigitChars 10 (c :: cs ++ [d]) 0 = n.digits / 10 ^ (n.places - 1) := by
    rw [← hlength, Nat.add_sub_cancel, ← hvalue, ← ofDigitChars_append_div hds.tail,
      List.append_assoc, List.singleton_append]
  rw [hplaced, List.cons_append] at htext
  rw [exists_toValue?_iff_ofChars? htext hcs.head ⟨'.', by simp, rfl⟩, ← List.cons_append,
    Decimal.ofChars?_eq_ofPlain? (readable_point hcs hds), Decimal.exists_ofPlain?_point hcs hds,
    hfirst]

/-! ### Small numbers -/

/-- A point behind the first digit leaves the digits as they are. -/
lemma exists_pointed_eq (c : Char) (cs : List Char) :
    ∃ rest, pointed (c :: cs) = c :: rest ∧ ∀ d ∈ rest, d ∈ cs ∨ d = '.' := by
  cases cs with
  | nil => exact ⟨[], rfl, fun d hd => absurd hd List.not_mem_nil⟩
  | cons d ds => exact ⟨'.' :: d :: ds, rfl, fun x hx => (List.mem_cons.mp hx).symm⟩

/-- Digits with a point behind the first one are a decimal. -/
lemma exists_ofPlain?_pointed {c : Char} {cs : List Char} (h : OnlyDigits (c :: cs)) :
    ∃ d, Decimal.ofPlain? (pointed (c :: cs)) = some d := by
  have hbound : Decimal.mantissaBound = 2 ^ 96 := rfl
  cases cs with
  | nil =>
    have hlt := ofDigitChars_lt h 0
    simp only [List.length_singleton] at hlt
    exact (Decimal.exists_ofPlain?_whole h).mpr (by omega)
  | cons d ds =>
    have hone : OnlyDigits [c] := .cons h.head .nil
    have htwo : OnlyDigits ([c] ++ [d]) := .cons h.head (.cons h.tail.head .nil)
    have hlt := ofDigitChars_lt htwo 0
    rw [List.length_append, List.length_singleton, List.length_singleton] at hlt
    exact (Decimal.exists_ofPlain?_point hone h.tail).mpr (by omega)

/-- A text of digits with a point behind the first one and an exponent is read in scientific
notation. -/
lemma ofChars?_scientific {c : Char} {cs : List Char} (h : OnlyDigits (c :: cs)) {d : Decimal}
    (hd : Decimal.ofPlain? (pointed (c :: cs)) = some d) (e : Nat) :
    Decimal.ofChars? (pointed (c :: cs) ++ 'E' :: '-' :: decimalDigits e) =
      (Decimal.exponent? (decimalDigits e)).bind d.shrink? := by
  obtain ⟨rest, hpointed, hrest⟩ := exists_pointed_eq c cs
  have hreadable : ∀ x ∈ c :: rest, isDigit x = true ∨ x = '.' := by
    refine List.forall_mem_cons.mpr ⟨.inl h.head, fun x hx => ?_⟩
    exact (hrest x hx).imp_left (h.tail x)
  rw [hpointed] at hd ⊢
  have hplain : Decimal.ofPlain? (c :: rest ++ 'E' :: '-' :: decimalDigits e) = none :=
    Decimal.ofPlain?_eq_none h.head (by simp)
  rw [Decimal.ofChars?, hplain, Option.orElse_none,
    Decimal.ofScientific?_append (Decimal.ne_mark hreadable) hd]

/-- A literal that is written with an exponent has a value if the exponent is at least minus
twenty-eight. -/
theorem exists_toValue?_scientific (hzero : n.digits ≠ 0)
    (hsmall : maxLeadingZeros < n.places - (decimalDigits n.digits).length) :
    (∃ v, n.toValue? = some v) ↔ n.places + 1 - (decimalDigits n.digits).length ≤ 28 := by
  have htext : n.toChars = pointed (decimalDigits n.digits) ++
      'E' :: '-' :: decimalDigits (n.places + 1 - (decimalDigits n.digits).length) := by
    rw [toChars, if_neg hzero, if_pos hsmall]
  generalize n.places + 1 - (decimalDigits n.digits).length = e at htext
  obtain ⟨c, cs, hdigits⟩ := exists_decimalDigits_eq_cons n.digits
  have hcs := onlyDigits_decimalDigits n.digits
  rw [hdigits] at htext hcs
  obtain ⟨d, hd⟩ := exists_ofPlain?_pointed hcs
  have hread := ofChars?_scientific hcs hd e
  obtain ⟨rest, hpointed, -⟩ := exists_pointed_eq c cs
  rw [hpointed, List.cons_append] at htext hread
  rw [exists_toValue?_iff_ofChars? htext hcs.head ⟨'E', by simp, rfl⟩, hread,
    Decimal.exists_exponent?_bind_shrink?_iff]
  rfl

/-! ### All numbers -/

/-- A number has at most `k` digits if it is less than `10 ^ k`. -/
lemma length_decimalDigits_le_iff {k : Nat} (hk : 0 < k) (m : Nat) :
    (decimalDigits m).length ≤ k ↔ m < 10 ^ k :=
  Nat.length_toDigits_le_iff (by decide) hk

/-- A number is at least the power of ten with as many digits. -/
lemma pow_length_le {m : Nat} (hm : m ≠ 0) : 10 ^ ((decimalDigits m).length - 1) ≤ m := by
  by_cases hone : (decimalDigits m).length - 1 = 0
  · rw [hone]
    exact Nat.one_le_iff_ne_zero.mpr hm
  · have hlength := length_decimalDigits_le_iff (Nat.pos_of_ne_zero hone) m
    omega

/-- The exponent of a small number is at least minus twenty-eight if the number is at least
`10 ^ -28`. -/
lemma exponent_le_iff {m places : Nat} (hm : m ≠ 0) :
    places + 1 - (decimalDigits m).length ≤ 28 ↔ 10 ^ places ≤ m * 10 ^ 28 := by
  have hpos : 0 < (decimalDigits m).length := Nat.length_toDigits_pos
  by_cases hfew : places ≤ 28
  · refine iff_of_true (by omega) ?_
    calc 10 ^ places ≤ 10 ^ 28 := Nat.pow_le_pow_right (by decide) hfew
      _ ≤ m * 10 ^ 28 := Nat.le_mul_of_pos_left _ (Nat.pos_of_ne_zero hm)
  · obtain ⟨k, hk⟩ : ∃ k, places = k + 28 := ⟨places - 28, by omega⟩
    have hlength := length_decimalDigits_le_iff (k := k) (by omega) m
    rw [hk, Nat.pow_add, Nat.mul_le_mul_right_iff (Nat.pow_pos (by decide))]
    omega

/-- A number that is written without an exponent is at least `10 ^ -28`. -/
lemma pow_places_le {m places : Nat} (hm : m ≠ 0)
    (hlarge : places - (decimalDigits m).length ≤ maxLeadingZeros) :
    10 ^ places ≤ m * 10 ^ 28 := by
  have hzeros : maxLeadingZeros = 5 := rfl
  calc 10 ^ places
      ≤ 10 ^ ((decimalDigits m).length - 1 + 28) := Nat.pow_le_pow_right (by decide) (by omega)
    _ = 10 ^ ((decimalDigits m).length - 1) * 10 ^ 28 := Nat.pow_add _ _ _
    _ ≤ m * 10 ^ 28 := Nat.mul_le_mul_right _ (pow_length_le hm)

/-- Whether a number rounds to an integer below `2 ^ 96` is settled by its first place. -/
lemma first_place_iff (m k : Nat) :
    m / 10 ^ k + 5 < 10 * 2 ^ 96 ↔ 2 * m + 10 ^ (k + 1) < 2 * 2 ^ 96 * 10 ^ (k + 1) := by
  have hpos : 0 < 10 ^ k := Nat.pow_pos (by decide)
  have hdiv : m / 10 ^ k < 10 * 2 ^ 96 - 5 ↔ m < (10 * 2 ^ 96 - 5) * 10 ^ k :=
    Nat.div_lt_iff_lt_mul hpos
  rw [pow_succ 10 k]
  generalize 10 ^ k = p at hpos hdiv
  omega

/-- **Which number literals have a value.**  A number literal has a value if and only if it is
representable. -/
theorem exists_toValue?_iff_representable (n : NumberLiteral) :
    (∃ v, n.toValue? = some v) ↔ n.Representable := by
  have hbound : Decimal.mantissaBound = 2 ^ 96 := rfl
  rw [representable_iff]
  by_cases hzero : n.digits = 0
  · have htext : n.toChars = ['0'] := by rw [toChars, if_pos hzero]
    refine iff_of_true (exists_toValue?_iff.mpr (.inl ⟨0, ?_⟩)) (.inl hzero)
    rw [htext]
    rfl
  rw [or_iff_right hzero]
  by_cases hplaces : n.places = 0
  · rw [exists_toValue?_integer hplaces, hplaces]
    omega
  by_cases hsmall : maxLeadingZeros < n.places - (decimalDigits n.digits).length
  · have hlength : (decimalDigits n.digits).length < n.places := by omega
    have hlt := (length_decimalDigits_le_iff (by omega) n.digits).mp (Nat.le_of_lt hlength)
    rw [exists_toValue?_scientific hzero hsmall, exponent_le_iff hzero]
    generalize 10 ^ n.places = p at hlt
    refine (and_iff_left ?_).symm
    omega
  · have hlarge := Nat.le_of_not_lt hsmall
    obtain ⟨k, hk⟩ := Nat.exists_eq_succ_of_ne_zero hplaces
    rw [exists_toValue?_places hzero (Nat.pos_of_ne_zero hplaces) hlarge,
      and_iff_right (pow_places_le hzero hlarge), hk, Nat.succ_sub_one, hbound]
    exact first_place_iff n.digits k

end NumberLiteral

end RecordGateway.OData
