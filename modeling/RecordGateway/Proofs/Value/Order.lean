import Mathlib.Data.Rat.Cast.Order
import Mathlib.Order.Compare
import Mathlib.Tactic.FieldSimp
import Mathlib.Tactic.Lemma
import Mathlib.Tactic.Positivity
import RecordGateway.Value

/-!
# The order of values

Values of one type are in a total order, and so are numbers of both types, because decimals are
compared as the rationals that they stand for, whatever their scales.  Between values of different
types there is no order at all.  Where values compare, comparing them the other way round swaps the
answer, and the order is transitive.
-/

namespace RecordGateway

open Std

/-! ### Identifiers, dates, instants, decimals -/

instance : TransOrd Uuid :=
  inferInstanceAs (TransCmp (compareOn Uuid.value))

instance : TransOrd Date :=
  inferInstanceAs (TransCmp (compareLex (compareLex (compareOn Date.year) (compareOn Date.month))
    (compareOn Date.day)))

instance : TransOrd Instant :=
  inferInstanceAs (TransCmp (compareOn Instant.nanoseconds))

namespace Decimal

/-- The number that a decimal stands for. -/
def toRat (d : Decimal) : ℚ :=
  d.signed / 10 ^ d.scale

/-- The number brought to the common denominator of two decimals. -/
lemma cast_signed_mul (a b : Decimal) :
    ((a.signed * (Nat.pow 10 b.scale : ℕ) : ℤ) : ℚ) =
      a.toRat * (10 ^ a.scale * 10 ^ b.scale) := by
  have hpow : ((Nat.pow 10 b.scale : ℕ) : ℚ) = 10 ^ b.scale := by
    rw [Nat.pow_eq, Nat.cast_pow, Nat.cast_ofNat]
  rw [toRat, Int.cast_mul, Int.cast_natCast, hpow]
  field_simp

/-- Decimals are compared as numbers. -/
theorem compare_eq (a b : Decimal) : compare a b = compare a.toRat b.toRat := by
  have hpos : (0 : ℚ) < 10 ^ a.scale * 10 ^ b.scale := by positivity
  calc compare a b
      = cmp (a.signed * (Nat.pow 10 b.scale : ℕ) : ℤ) (b.signed * (Nat.pow 10 a.scale : ℕ)) := by
        rw [cmp_eq_compare]
        rfl
    _ = cmp ((a.signed * (Nat.pow 10 b.scale : ℕ) : ℤ) : ℚ)
          ((b.signed * (Nat.pow 10 a.scale : ℕ) : ℤ) : ℚ) :=
        (Int.cast_strictMono.cmp_map_eq _ _).symm
    _ = cmp a.toRat b.toRat := by
        rw [cast_signed_mul a b, cast_signed_mul b a, mul_comm (10 ^ b.scale)]
        exact cmp_mul_pos_right hpos _ _
    _ = compare a.toRat b.toRat := cmp_eq_compare _ _

instance : TransOrd Decimal where
  eq_swap {a b} := by
    rw [compare_eq a b, compare_eq b a]
    exact OrientedCmp.eq_swap
  isLE_trans {a b c} := by
    rw [compare_eq a b, compare_eq b c, compare_eq a c]
    exact TransCmp.isLE_trans

end Decimal

/-! ### Values that compare -/

namespace Value

/-- Two values of one type, or two numbers, with the order in which they stand. -/
inductive Compares : Value → Value → Ordering → Prop where
  | string (a b : String) : Compares (.string a) (.string b) (compare a b)
  | bool (a b : Bool) : Compares (.bool a) (.bool b) (compare a b)
  | uuid (a b : Uuid) : Compares (.uuid a) (.uuid b) (compare a b)
  | date (a b : Date) : Compares (.date a) (.date b) (compare a b)
  | instant (a b : Instant) : Compares (.instant a) (.instant b) (compare a b)
  | number {x y : Value} {a b : Decimal} (hx : x.asDecimal? = some a)
      (hy : y.asDecimal? = some b) : Compares x y (compare a b)

/-- Values compare if they are of one type, or both numbers, and only then. -/
lemma compare?_eq_some_iff {x y : Value} {o : Ordering} :
    x.compare? y = some o ↔ Compares x y o := by
  constructor
  · intro h
    unfold compare? at h
    split at h
    · exact Option.some.inj h ▸ .string _ _
    · exact Option.some.inj h ▸ .bool _ _
    · exact Option.some.inj h ▸ .uuid _ _
    · exact Option.some.inj h ▸ .date _ _
    · exact Option.some.inj h ▸ .instant _ _
    · split at h
      · exact Option.some.inj h ▸ .number ‹_› ‹_›
      · cases h
  · intro h
    cases h with
    | number hx hy =>
      cases x <;> cases hx <;> cases y <;> cases hy <;> rfl
    | _ => rfl

/-- Comparing the other way round swaps the answer. -/
theorem compare?_swap (x y : Value) : y.compare? x = (x.compare? y).map Ordering.swap := by
  have hswap {x y : Value} {o : Ordering} (h : Compares x y o) : Compares y x o.swap := by
    cases h with
    | string a b => exact OrientedOrd.eq_swap (a := b) ▸ .string b a
    | bool a b => exact OrientedOrd.eq_swap (a := b) ▸ .bool b a
    | uuid a b => exact OrientedOrd.eq_swap (a := b) ▸ .uuid b a
    | date a b => exact OrientedOrd.eq_swap (a := b) ▸ .date b a
    | instant a b => exact OrientedOrd.eq_swap (a := b) ▸ .instant b a
    | @number _ _ a b hx hy => exact OrientedOrd.eq_swap (a := b) ▸ .number hy hx
  cases h : x.compare? y with
  | some o => exact compare?_eq_some_iff.mpr (hswap (compare?_eq_some_iff.mp h))
  | none =>
    cases h' : y.compare? x with
    | none => rfl
    | some o =>
      have hx := compare?_eq_some_iff.mpr (hswap (compare?_eq_some_iff.mp h'))
      cases h.symm.trans hx

/-- The order of values that compare is transitive. -/
theorem compare?_trans {x y z : Value} {o o' : Ordering} (hxy : x.compare? y = some o)
    (hyz : y.compare? z = some o') (ho : o.isLE = true) (ho' : o'.isLE = true) :
    ∃ o'', x.compare? z = some o'' ∧ o''.isLE = true := by
  rw [compare?_eq_some_iff] at hxy hyz
  simp only [compare?_eq_some_iff]
  cases hxy with
  | string a b =>
    cases hyz with
    | string _ c => exact ⟨_, .string a c, TransCmp.isLE_trans ho ho'⟩
    | number hy hz => cases hy
  | bool a b =>
    cases hyz with
    | bool _ c => exact ⟨_, .bool a c, TransCmp.isLE_trans ho ho'⟩
    | number hy hz => cases hy
  | uuid a b =>
    cases hyz with
    | uuid _ c => exact ⟨_, .uuid a c, TransCmp.isLE_trans ho ho'⟩
    | number hy hz => cases hy
  | date a b =>
    cases hyz with
    | date _ c => exact ⟨_, .date a c, TransCmp.isLE_trans ho ho'⟩
    | number hy hz => cases hy
  | instant a b =>
    cases hyz with
    | instant _ c => exact ⟨_, .instant a c, TransCmp.isLE_trans ho ho'⟩
    | number hy hz => cases hy
  | number hx hy =>
    cases hyz with
    | number hy' hz =>
      obtain rfl := Option.some.inj (hy.symm.trans hy')
      exact ⟨_, .number hx hz, TransCmp.isLE_trans ho ho'⟩
    | _ => cases hy

end Value

end RecordGateway
