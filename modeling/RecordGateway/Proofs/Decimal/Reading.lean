import Mathlib.Algebra.Order.Ring.Nat
import Mathlib.Tactic.Lemma
import RecordGateway.Decimal.Reading

/-!
# Which numbers are decimals

A number that is written without an exponent is read as a decimal precisely if it is less than
`2 ^ 96` after rounding to an integer, however many places it has: places that do not fit are
rounded away, and only where no place is left can a number outgrow its ninety-six bits.  So the
first digit behind the point is the last one that counts.  In scientific notation it is the exponent
that has to be at most twenty-eight.
-/

namespace RecordGateway

/-! ### Digits -/

namespace Text

/-- Whether a text consists of digits only. -/
def OnlyDigits (cs : List Char) : Prop :=
  ∀ c ∈ cs, isDigit c = true

/-- The digits are those of the library. -/
lemma isDigit_eq (c : Char) : isDigit c = c.isDigit := by
  simp [isDigit, Char.isDigit, Char.le_def]

/-- The value of a digit. -/
lemma digit?_of_isDigit {c : Char} (h : isDigit c = true) :
    digit? c = some (c.toNat - '0'.toNat) := by
  rw [digit?, if_pos (of_decide_eq_true h)]

/-- No other character is read as a digit. -/
lemma digit?_of_not_isDigit {c : Char} (h : isDigit c = false) : digit? c = none := by
  rw [digit?, if_neg (of_decide_eq_false h)]

/-- A digit is less than ten. -/
lemma digit_lt {c : Char} (h : isDigit c = true) : c.toNat - '0'.toNat < 10 := by
  have hle : c ≤ '9' := (of_decide_eq_true h).2
  have hval : c.toNat ≤ '9'.toNat := hle
  have hnine : '9'.toNat = 57 := rfl
  have hzero : '0'.toNat = 48 := rfl
  omega

namespace OnlyDigits

variable {c : Char} {cs : List Char}

/-- The empty text has no other characters than digits. -/
lemma nil : OnlyDigits [] :=
  fun _ hc => absurd hc List.not_mem_nil

/-- A digit may be put in front. -/
lemma cons (hc : isDigit c = true) (h : OnlyDigits cs) : OnlyDigits (c :: cs) :=
  List.forall_mem_cons.mpr ⟨hc, h⟩

/-- The first character is a digit. -/
lemma head (h : OnlyDigits (c :: cs)) : isDigit c = true :=
  h c List.mem_cons_self

/-- The other characters are digits. -/
lemma tail (h : OnlyDigits (c :: cs)) : OnlyDigits cs :=
  fun d hd => h d (List.mem_cons_of_mem c hd)

end OnlyDigits

/-- A number has digits. -/
lemma exists_decimalDigits_eq_cons (n : Nat) : ∃ c cs, decimalDigits n = c :: cs :=
  List.exists_cons_of_ne_nil Nat.toDigits_ne_nil

/-- The digits of a number are digits. -/
lemma onlyDigits_decimalDigits (n : Nat) : OnlyDigits (decimalDigits n) := by
  intro c hc
  rw [isDigit_eq]
  exact Nat.isDigit_of_mem_toDigits (by decide) (by decide) hc

/-- A text of digits has the value of its digits. -/
lemma valueFrom_onlyDigits {cs : List Char} (h : OnlyDigits cs) (n : Nat) :
    valueFrom digit? 10 n cs = some (Nat.ofDigitChars 10 cs n) := by
  induction cs generalizing n with
  | nil => rfl
  | cons c cs ih =>
    rw [valueFrom, digit?_of_isDigit h.head, Option.bind_eq_bind, Option.bind_some, ih h.tail,
      Nat.ofDigitChars_cons, Nat.mul_comm]

/-- The digits of a number are read as the number. -/
lemma natural?_decimalDigits (n : Nat) : natural? (decimalDigits n) = some n := by
  have hne : decimalDigits n ≠ [] := Nat.toDigits_ne_nil
  rw [natural?, if_neg hne, valueFrom_onlyDigits (onlyDigits_decimalDigits n)]
  exact congrArg some Nat.ofDigitChars_ten_toDigits

/-- A text that begins with a digit has no sign. -/
lemma plusNatural?_of_isDigit {c : Char} (hc : isDigit c = true) (cs : List Char) :
    plusNatural? (c :: cs) = natural? (c :: cs) := by
  unfold plusNatural?
  split
  case h_1 heq =>
    cases heq
    cases hc
  case h_2 => rfl

/-- A text that begins with a digit is no negative number. -/
lemma integer?_of_isDigit {c : Char} (hc : isDigit c = true) (cs : List Char) :
    integer? (c :: cs) = (natural? (c :: cs)).map Int.ofNat := by
  unfold integer?
  split
  case h_1 heq =>
    cases heq
    cases hc
  case h_2 => rw [plusNatural?_of_isDigit hc]

/-- Only texts of digits have a value. -/
lemma onlyDigits_of_valueFrom {cs : List Char} {n m : Nat} (h : valueFrom digit? 10 n cs = some m) :
    OnlyDigits cs := by
  induction cs generalizing n with
  | nil => exact .nil
  | cons c cs ih =>
    rw [valueFrom] at h
    cases hc : isDigit c with
    | true =>
      rw [digit?_of_isDigit hc] at h
      exact .cons hc (ih h)
    | false =>
      rw [digit?_of_not_isDigit hc] at h
      cases h

/-- The value of further digits is less than one unit of those in front. -/
lemma ofDigitChars_lt {cs : List Char} (h : OnlyDigits cs) (n : Nat) :
    Nat.ofDigitChars 10 cs n < (n + 1) * 10 ^ cs.length := by
  induction cs generalizing n with
  | nil => simp
  | cons c cs ih =>
    have hlt := digit_lt h.head
    rw [Nat.ofDigitChars_cons, List.length_cons, Nat.pow_succ']
    calc Nat.ofDigitChars 10 cs (10 * n + (c.toNat - '0'.toNat))
        < (10 * n + (c.toNat - '0'.toNat) + 1) * 10 ^ cs.length := ih h.tail _
      _ ≤ (n + 1) * 10 * 10 ^ cs.length := Nat.mul_le_mul_right _ (by omega)
      _ = (n + 1) * (10 * 10 ^ cs.length) := Nat.mul_assoc _ _ _

/-- Further digits make a number no smaller. -/
lemma le_ofDigitChars (cs : List Char) (n : Nat) : n ≤ Nat.ofDigitChars 10 cs n := by
  rw [Nat.ofDigitChars_eq_ofDigitChars_zero]
  exact Nat.le_add_right_of_le (Nat.le_mul_of_pos_left n (Nat.pow_pos (by decide)))

/-- The digits in front of some digits are the quotient by the power of ten. -/
lemma ofDigitChars_append_div {as cs : List Char} (h : OnlyDigits cs) :
    Nat.ofDigitChars 10 (as ++ cs) 0 / 10 ^ cs.length = Nat.ofDigitChars 10 as 0 := by
  have hlt := ofDigitChars_lt h 0
  rw [Nat.ofDigitChars_append, Nat.ofDigitChars_eq_ofDigitChars_zero,
    Nat.mul_add_div (Nat.pow_pos (by decide)), Nat.div_eq_of_lt (by simpa using hlt), Nat.add_zero]

end Text

/-! ### Digits of a decimal -/

namespace Decimal

open Text

/-- Whether digits fit into a decimal. -/
def Digits.Fits (ds : Digits) : Prop :=
  ds.mantissa < mantissaBound ∧ ds.scale ≤ maxScale

/-- Zero fits. -/
lemma Digits.fits_zero : (⟨0, 0⟩ : Digits).Fits :=
  ⟨by decide, by decide⟩

/-- Digits that fit make up a decimal. -/
lemma Digits.Fits.exists_ofParts? {ds : Digits} (h : ds.Fits) (negative : Bool) :
    ∃ d, ofParts? negative ds.mantissa ds.scale = some d :=
  ⟨_, dif_pos h⟩

/-- Digits that fit do so when they are rounded. -/
lemma Digits.Fits.roundBy {ds r : Digits} {d : Nat} (h : ds.Fits) (hr : ds.roundBy d = some r) :
    r.Fits := by
  unfold Digits.roundBy at hr
  obtain ⟨hmantissa, hscale⟩ := h
  split at hr
  · exact Option.some.inj hr ▸ ⟨hmantissa, hscale⟩
  · split at hr
    · exact Option.some.inj hr ▸ ⟨‹_›, hscale⟩
    · split at hr
      · cases hr
      · refine Option.some.inj hr ▸ ⟨?_, Nat.le_trans (Nat.sub_le _ _) hscale⟩
        change (ds.mantissa + 1 + 4) / 10 < mantissaBound
        omega

/-- Digits with a place can be rounded. -/
lemma Digits.exists_roundBy {ds : Digits} (h : 0 < ds.scale) (d : Nat) :
    ∃ r, ds.roundBy d = some r := by
  unfold Digits.roundBy
  split
  · exact ⟨_, rfl⟩
  · split
    · exact ⟨_, rfl⟩
    · rw [if_neg (Nat.ne_of_gt h)]
      exact ⟨_, rfl⟩

instance (ds : Digits) : Decidable ds.Fits :=
  inferInstanceAs (Decidable (_ ∧ _))

/-- The digits with a digit more, in front of the point or behind it. -/
def Digits.append (ds : Digits) (fraction : Bool) (d : Nat) : Digits :=
  ⟨ds.mantissa * 10 + d, if fraction then ds.scale + 1 else ds.scale⟩

/-- Of digits without places only the number decides whether a further digit fits. -/
lemma Digits.fits_append_iff (m d : Nat) (fraction : Bool) :
    ((⟨m, 0⟩ : Digits).append fraction d).Fits ↔ m * 10 + d < mantissaBound := by
  have hscale : 1 ≤ maxScale := by decide
  cases fraction with
  | false => exact and_iff_left (Nat.zero_le maxScale)
  | true => exact and_iff_left hscale

/-- A further digit is read if it fits, and rounds the number otherwise. -/
lemma readDigits_digit {fraction started : Bool} {ds : Digits} {c : Char} {rest : List Char}
    (hc : isDigit c = true) :
    readDigits fraction started ds (c :: rest) =
      if (ds.append fraction (c.toNat - '0'.toNat)).Fits then
        readDigits fraction true (ds.append fraction (c.toNat - '0'.toNat)) rest
      else if fraction ∧ rest.all isIgnored then ds.roundBy (c.toNat - '0'.toNat)
      else none := by
  rw [readDigits, digit?_of_isDigit hc]
  rfl

/-- Apart from digits one point and group marks are read. -/
lemma readDigits_other {fraction started : Bool} {ds : Digits} {c : Char} {rest : List Char}
    (hc : isDigit c = false) :
    readDigits fraction started ds (c :: rest) =
      if c = '.' ∧ !fraction then readDigits true started ds rest
      else if c = '_' ∧ started then readDigits fraction started ds rest
      else none := by
  rw [readDigits, digit?_of_not_isDigit hc]

/-- What is read of a text fits. -/
lemma Digits.Fits.readDigits {fraction started : Bool} {ds r : Digits} {cs : List Char}
    (h : ds.Fits) (hr : Decimal.readDigits fraction started ds cs = some r) : r.Fits := by
  induction cs generalizing fraction started ds with
  | nil =>
    rw [Decimal.readDigits] at hr
    split at hr
    · exact Option.some.inj hr ▸ h
    · cases hr
  | cons c rest ih =>
    cases hc : isDigit c with
    | true =>
      rw [readDigits_digit hc] at hr
      split at hr
      case isTrue hfits => exact ih hfits hr
      case isFalse =>
        split at hr
        · exact h.roundBy hr
        · cases hr
    | false =>
      rw [readDigits_other hc] at hr
      split at hr
      · exact ih h hr
      · split at hr
        · exact ih h hr
        · cases hr

/-- What is read consists of digits, points and group marks. -/
lemma readable_of_readDigits {fraction started : Bool} {ds r : Digits} {cs : List Char}
    (hr : readDigits fraction started ds cs = some r) :
    ∀ c ∈ cs, isDigit c = true ∨ c = '.' ∨ c = '_' := by
  induction cs generalizing fraction started ds with
  | nil => exact fun c hc => absurd hc List.not_mem_nil
  | cons c rest ih =>
    rw [List.forall_mem_cons]
    cases hc : isDigit c with
    | true =>
      refine ⟨.inl rfl, ?_⟩
      rw [readDigits_digit hc] at hr
      split at hr
      · exact ih hr
      · split at hr
        case isTrue hignored =>
          intro d hd
          have hd := Bool.or_eq_true_iff.mp (List.all_eq_true.mp hignored.2 d hd)
          exact hd.imp_right fun hmark => .inr (beq_iff_eq.mp hmark)
        case isFalse => cases hr
    | false =>
      rw [readDigits_other hc] at hr
      split at hr
      case isTrue hpoint => exact ⟨.inr (.inl hpoint.1), ih hr⟩
      case isFalse =>
        split at hr
        case isTrue hmark => exact ⟨.inr (.inr hmark.1), ih hr⟩
        case isFalse => cases hr

/-! ### Plain notation -/

/-- Of digits behind the one that rounds a number only the form counts. -/
lemma all_isIgnored {cs : List Char} (h : OnlyDigits cs) : cs.all isIgnored = true := by
  refine List.all_eq_true.mpr fun c hc => ?_
  rw [isIgnored, h c hc, Bool.true_or]

/-- Digits that follow a place can all be read. -/
lemma exists_readDigits_of_place {ds : Digits} {cs : List Char} (h : ds.Fits)
    (hscale : 0 < ds.scale) (hcs : OnlyDigits cs) :
    ∃ r, readDigits true true ds cs = some r := by
  induction cs generalizing ds with
  | nil => exact ⟨ds, rfl⟩
  | cons c cs ih =>
    rw [readDigits_digit hcs.head]
    split
    case isTrue hfits => exact ih hfits (Nat.succ_pos _) hcs.tail
    case isFalse =>
      rw [if_pos ⟨rfl, all_isIgnored hcs.tail⟩]
      exact Digits.exists_roundBy hscale _

/-- Digits without places are read until the first digit behind the point, which rounds the number
if it does not fit. -/
lemma exists_readDigits_behind_point {started : Bool} {m : Nat} {c : Char} {cs : List Char}
    (hm : m < mantissaBound) (h : OnlyDigits (c :: cs)) :
    (∃ r, readDigits true started ⟨m, 0⟩ (c :: cs) = some r) ↔
      m * 10 + (c.toNat - '0'.toNat) + 5 < 10 * mantissaBound := by
  have hbound : mantissaBound = 2 ^ 96 := rfl
  have hdigit := digit_lt h.head
  rw [readDigits_digit h.head]
  generalize c.toNat - '0'.toNat = d at hdigit
  split
  case isTrue hfits =>
    have hlt := (Digits.fits_append_iff m d true).mp hfits
    exact iff_of_true (exists_readDigits_of_place hfits Nat.one_pos h.tail) (by omega)
  case isFalse hfits =>
    rw [Digits.fits_append_iff] at hfits
    rw [if_pos ⟨rfl, all_isIgnored h.tail⟩, Digits.roundBy]
    split
    case isTrue hdown => exact iff_of_true ⟨_, rfl⟩ (by omega)
    case isFalse hup =>
      split
      case isTrue hroom => exact iff_of_true ⟨_, rfl⟩ (by dsimp only at hroom; omega)
      case isFalse hfull =>
        rw [if_pos rfl]
        refine iff_of_false (fun ⟨_, hr⟩ => nomatch hr) ?_
        dsimp only at hfull
        omega

/-- Digits in front of the point are all read, if the number that they make up fits. -/
lemma readDigits_whole (started : Bool) {m : Nat} {cs : List Char} (hm : m < mantissaBound)
    (hcs : OnlyDigits cs) (rest : List Char) :
    readDigits false started ⟨m, 0⟩ (cs ++ rest) =
      if Nat.ofDigitChars 10 cs m < mantissaBound then
        readDigits false (started || !cs.isEmpty) ⟨Nat.ofDigitChars 10 cs m, 0⟩ rest
      else none := by
  induction cs generalizing m started with
  | nil => rw [Nat.ofDigitChars_nil, if_pos hm, List.isEmpty_nil, Bool.not_true, Bool.or_false,
      List.nil_append]
  | cons c cs ih =>
    rw [List.cons_append, readDigits_digit hcs.head, Nat.ofDigitChars_cons, Nat.mul_comm 10 m]
    simp only [Digits.fits_append_iff]
    split
    case isTrue hlt =>
      have hnext := ih true hlt hcs.tail
      rw [Bool.true_or] at hnext
      rw [List.isEmpty_cons, Bool.not_false, Bool.or_true]
      exact hnext
    case isFalse hle =>
      have hlarge := Nat.le_trans (Nat.le_of_not_lt hle) (le_ofDigitChars cs _)
      rw [if_neg (fun h => Bool.false_ne_true h.1), if_neg (Nat.not_lt.mpr hlarge)]

/-- A text that begins with a digit has no sign. -/
lemma ofPlain?_of_isDigit {c : Char} (hc : isDigit c = true) (cs : List Char) :
    ofPlain? (c :: cs) = (readDigits false false ⟨0, 0⟩ (c :: cs)).bind
      fun ds => ofParts? false ds.mantissa ds.scale := by
  unfold ofPlain?
  split
  case h_1 heq =>
    cases heq
    cases hc
  case h_2 heq =>
    cases heq
    cases hc
  case h_3 => rfl

/-- A text that begins with a digit is read as a decimal if its digits are read. -/
lemma exists_ofPlain?_iff {c : Char} (hc : isDigit c = true) (cs : List Char) :
    (∃ d, ofPlain? (c :: cs) = some d) ↔
      ∃ ds, readDigits false false ⟨0, 0⟩ (c :: cs) = some ds := by
  rw [ofPlain?_of_isDigit hc]
  cases hds : readDigits false false ⟨0, 0⟩ (c :: cs) with
  | none => simp
  | some ds =>
    have hfits : ds.Fits := Digits.fits_zero.readDigits hds
    exact iff_of_true (hfits.exists_ofParts? false) ⟨ds, rfl⟩

/-- An integer is read as a decimal if it is less than `2 ^ 96`. -/
theorem exists_ofPlain?_whole {c : Char} {cs : List Char} (h : OnlyDigits (c :: cs)) :
    (∃ d, ofPlain? (c :: cs) = some d) ↔ Nat.ofDigitChars 10 (c :: cs) 0 < mantissaBound := by
  have hread := readDigits_whole false (m := 0) (by decide) h []
  rw [List.append_nil] at hread
  rw [exists_ofPlain?_iff h.head, hread]
  split
  case isTrue hlt => exact iff_of_true ⟨_, rfl⟩ hlt
  case isFalse hle => exact iff_of_false (fun ⟨_, hr⟩ => nomatch hr) hle

/-- A number with places is read as a decimal if it is less than `2 ^ 96` after rounding to an
integer, for which the first place is enough to know. -/
theorem exists_ofPlain?_point {c d : Char} {cs ds : List Char} (hcs : OnlyDigits (c :: cs))
    (hds : OnlyDigits (d :: ds)) :
    (∃ v, ofPlain? (c :: cs ++ '.' :: d :: ds) = some v) ↔
      Nat.ofDigitChars 10 (c :: cs ++ [d]) 0 + 5 < 10 * mantissaBound := by
  have hlast : Nat.ofDigitChars 10 (c :: cs ++ [d]) 0 =
      Nat.ofDigitChars 10 (c :: cs) 0 * 10 + (d.toNat - '0'.toNat) := by
    rw [Nat.ofDigitChars_append, Nat.ofDigitChars_cons, Nat.ofDigitChars_nil, Nat.mul_comm]
  have hread := readDigits_whole false (m := 0) (by decide) hcs ('.' :: d :: ds)
  rw [List.cons_append, exists_ofPlain?_iff hcs.head, ← List.cons_append, hread, hlast]
  split
  case isTrue hlt =>
    rw [readDigits_other (by decide), if_pos ⟨rfl, rfl⟩, exists_readDigits_behind_point hlt hds]
  case isFalse hle => exact iff_of_false (fun ⟨_, hr⟩ => nomatch hr) (by omega)

/-- A text in scientific notation is not read in plain notation. -/
lemma ofPlain?_eq_none {c : Char} {cs : List Char} (hc : isDigit c = true) (hmark : 'E' ∈ cs) :
    ofPlain? (c :: cs) = none := by
  refine Option.eq_none_iff_forall_ne_some.mpr fun d hd => ?_
  obtain ⟨ds, hds⟩ := (exists_ofPlain?_iff hc cs).mp ⟨d, hd⟩
  exact absurd (readable_of_readDigits hds 'E' (List.mem_cons_of_mem c hmark)) (by decide)

/-! ### Scientific notation -/

/-- A decimal is divided by a power of ten precisely if the exponent is at most twenty-eight. -/
theorem exists_shrink?_iff (d : Decimal) (e : Nat) :
    (∃ v, d.shrink? e = some v) ↔ e ≤ maxScale := by
  unfold shrink?
  split
  case isTrue hlarge => exact iff_of_false (fun ⟨_, hr⟩ => nomatch hr) (Nat.not_le.mpr hlarge)
  case isFalse hsmall =>
    have he : e ≤ maxScale := Nat.le_of_not_lt hsmall
    refine iff_of_true ?_ he
    split
    case isTrue hscale => exact ⟨_, dif_pos ⟨d.mantissa_lt, hscale⟩⟩
    case isFalse hscale =>
      refine ⟨_, dif_pos ⟨?_, Nat.le_refl _⟩⟩
      have hmantissa := d.mantissa_lt
      obtain ⟨k, hk⟩ : ∃ k, d.scale - (maxScale - e) = k + 1 :=
        ⟨d.scale + e - maxScale - 1, by omega⟩
      have hpos : 0 < Nat.pow 10 k := Nat.pow_pos (by decide)
      have hpow : Nat.pow 10 (k + 1) = Nat.pow 10 k * 10 := rfl
      rw [hk, dropPlaces, if_neg (Nat.succ_ne_zero k), Nat.add_sub_cancel, hpow]
      exact Nat.div_lt_of_lt_mul (by omega)

/-- The digits of a number are read as an exponent if it is less than `2 ^ 32`. -/
lemma exponent?_decimalDigits (e : Nat) :
    exponent? (decimalDigits e) = if e < UInt32.size then some e else none := by
  obtain ⟨c, cs, he⟩ := exists_decimalDigits_eq_cons e
  have hdigits := onlyDigits_decimalDigits e
  have hread := natural?_decimalDigits e
  rw [he] at hdigits hread ⊢
  rw [exponent?, plusNatural?_of_isDigit hdigits.head, hread, Option.filter_some]
  simp only [decide_eq_true_eq]

/-- A number in scientific notation is the decimal in front of the mark divided by a power of
ten. -/
lemma ofScientific?_append {cs : List Char} {d : Decimal} (hcs : ∀ c ∈ cs, c ≠ 'e' ∧ c ≠ 'E')
    (hd : ofPlain? cs = some d) (e : Nat) :
    ofScientific? (cs ++ 'E' :: '-' :: decimalDigits e) =
      (exponent? (decimalDigits e)).bind d.shrink? := by
  have hplain : ∀ c ∈ cs, (!(c == 'e' || c == 'E')) = true := fun c hc => by simp [hcs c hc]
  unfold ofScientific?
  simp only [List.dropWhile_append_of_pos hplain, List.takeWhile_append_of_pos hplain]
  simp [hd]

/-- A number in scientific notation is read as a decimal if its exponent is at least minus
twenty-eight. -/
theorem exists_exponent?_bind_shrink?_iff (d : Decimal) (e : Nat) :
    (∃ v, (exponent? (decimalDigits e)).bind d.shrink? = some v) ↔ e ≤ maxScale := by
  rw [exponent?_decimalDigits]
  split
  case isTrue => exact exists_shrink?_iff d e
  case isFalse hlarge =>
    have hscale : maxScale < UInt32.size := by decide
    exact iff_of_false (fun ⟨_, hr⟩ => nomatch hr) (by omega)

/-- Digits and points do not mark an exponent. -/
lemma ne_mark {cs : List Char} (h : ∀ c ∈ cs, isDigit c = true ∨ c = '.') :
    ∀ c ∈ cs, c ≠ 'e' ∧ c ≠ 'E' := by
  intro c hc
  constructor <;> rintro rfl <;> exact absurd (h _ hc) (by decide)

/-- A text without the mark of an exponent is not in scientific notation. -/
lemma ofScientific?_eq_none {cs : List Char} (hcs : ∀ c ∈ cs, c ≠ 'e' ∧ c ≠ 'E') :
    ofScientific? cs = none := by
  have hplain : ∀ c ∈ cs, (!(c == 'e' || c == 'E')) = true := fun c hc => by simp [hcs c hc]
  have hdrop : (cs ++ []).dropWhile (fun c => !(c == 'e' || c == 'E')) = [] :=
    List.dropWhile_append_of_pos hplain
  rw [List.append_nil] at hdrop
  unfold ofScientific?
  simp only [hdrop]

/-- A text of digits and points is a decimal if it is one in plain notation. -/
lemma ofChars?_eq_ofPlain? {cs : List Char} (h : ∀ c ∈ cs, isDigit c = true ∨ c = '.') :
    ofChars? cs = ofPlain? cs := by
  rw [ofChars?, ofScientific?_eq_none (ne_mark h)]
  cases ofPlain? cs <;> rfl

/-! ### Written numbers -/

/-- A number in digits, with zeros in front, still has its value. -/
lemma ofDigitChars_paddedDigits (width m : Nat) :
    Nat.ofDigitChars 10 (paddedDigits width m) 0 = m := by
  rw [paddedDigits, padZeros, Nat.ofDigitChars_append, Nat.ofDigitChars_replicate_zero,
    Nat.mul_zero]
  exact Nat.ofDigitChars_ten_toDigits

/-- A padded number has no other characters than digits. -/
lemma onlyDigits_paddedDigits (width m : Nat) : OnlyDigits (paddedDigits width m) := by
  intro c hc
  rw [paddedDigits, padZeros, List.mem_append] at hc
  rcases hc with hzero | hdigit
  · rw [(List.mem_replicate.mp hzero).2]
    rfl
  · exact onlyDigits_decimalDigits m c hdigit

/-- A padded number is at least as long as its padding makes it. -/
lemma le_length_paddedDigits (width m : Nat) : width ≤ (paddedDigits width m).length := by
  rw [paddedDigits, padZeros, List.length_append, List.length_replicate]
  omega

/-- A number with places is written with digits in front of the point and as many behind it as there
are places. -/
lemma exists_placed_eq {scale : Nat} (hscale : 0 < scale) (m : Nat) :
    ∃ c cs d ds, placed scale m = c :: cs ++ '.' :: d :: ds ∧
      OnlyDigits (c :: cs) ∧ OnlyDigits (d :: ds) ∧ ds.length + 1 = scale ∧
      Nat.ofDigitChars 10 (c :: cs ++ d :: ds) 0 = m := by
  have hplaced : placed scale m =
      (paddedDigits (scale + 1) m).take ((paddedDigits (scale + 1) m).length - scale) ++
        '.' :: (paddedDigits (scale + 1) m).drop ((paddedDigits (scale + 1) m).length - scale) := by
    rw [placed, if_neg (Nat.ne_of_gt hscale)]
  have hvalue := ofDigitChars_paddedDigits (scale + 1) m
  have hdigits := onlyDigits_paddedDigits (scale + 1) m
  have hlength := le_length_paddedDigits (scale + 1) m
  generalize paddedDigits (scale + 1) m = digits at hplaced hvalue hdigits hlength
  have hfront : digits.take (digits.length - scale) ≠ [] := by
    rw [← List.length_pos_iff, List.length_take]
    omega
  have hback : (digits.drop (digits.length - scale)).length = scale := by
    rw [List.length_drop]
    omega
  obtain ⟨c, cs, hcs⟩ := List.exists_cons_of_ne_nil hfront
  obtain ⟨d, ds, hds⟩ := List.exists_cons_of_length_pos (hback ▸ hscale)
  refine ⟨c, cs, d, ds, by rw [hplaced, hcs, hds], fun x hx => ?_, fun x hx => ?_,
    by rw [← hback, hds, List.length_cons], by rw [← hcs, ← hds, List.take_append_drop, hvalue]⟩
  · exact hdigits x (List.mem_of_mem_take (hcs ▸ hx))
  · exact hdigits x (List.mem_of_mem_drop (hds ▸ hx))

end Decimal

end RecordGateway
