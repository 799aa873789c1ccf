import Mathlib.Data.List.Basic
import Mathlib.Data.List.Pairwise
import RecordGateway.Proofs.Value.Order
import RecordGateway.Store.Sorting

/-!
# The order of records

What it means that one record stands before another one under some sort orders: they tie under the
first orders, and under the next one the record comes first, where a missing value and null come
first in an ascending order and last in a descending one.

The comparison of records decides this wherever the values that it meets compare.  On records whose
values compare pairwise it is a total preorder, so that sorting by it is well defined; the sort is
stable, so records that tie keep the order that they had.
-/

namespace RecordGateway

open Std

namespace SortOrder

/-- Whether two records have values that compare, as far as both have a value at all. -/
def Comparable (o : SortOrder) (a b : Attributes) : Prop :=
  ∀ x ∈ a.present? o.attributeName, ∀ y ∈ b.present? o.attributeName,
    (x.compare? y).isSome = true

instance (o : SortOrder) (a b : Attributes) : Decidable (o.Comparable a b) :=
  inferInstanceAs (Decidable (∀ x ∈ a.present? o.attributeName,
    ∀ y ∈ b.present? o.attributeName, (x.compare? y).isSome = true))

/-- Whether two records have the same place: both have no value, or they have equal ones. -/
def Ties (o : SortOrder) (a b : Attributes) : Prop :=
  match a.present? o.attributeName, b.present? o.attributeName with
  | none, none => True
  | some x, some y => x.compare? y = some .eq
  | none, some _ => False
  | some _, none => False

/-- Whether a record stands before another one: no value comes first in an ascending order and
last in a descending one, and values come in their order or in the opposite one. -/
def Precedes (o : SortOrder) (a b : Attributes) : Prop :=
  match o.direction, a.present? o.attributeName, b.present? o.attributeName with
  | .ascending, none, some _ => True
  | .ascending, some x, some y => x.compare? y = some .lt
  | .descending, some _, none => True
  | .descending, some x, some y => x.compare? y = some .gt
  | _, _, _ => False

/-- Whether two records tie under all of some orders. -/
def TiesAll (orders : List SortOrder) (a b : Attributes) : Prop :=
  ∀ o ∈ orders, o.Ties a b

/-- Whether a record stands before another one under the first order that tells them apart. -/
def PrecedesFirst (orders : List SortOrder) (a b : Attributes) : Prop :=
  ∃ before o after, orders = before ++ o :: after ∧ TiesAll before a b ∧ o.Precedes a b

/-! ### The comparison of two records -/

section Compare

variable {o : SortOrder} {orders : List SortOrder} {a b : Attributes}

/-- Under one order two records are compared as equal if they tie, and as less if the first one
stands before the other one. -/
lemma compare_iff (h : o.Comparable a b) :
    (o.compare a b = .eq ↔ o.Ties a b) ∧ (o.compare a b = .lt ↔ o.Precedes a b) := by
  unfold SortOrder.compare Ties Precedes
  dsimp only
  cases hx : a.present? o.attributeName with
  | none =>
    cases b.present? o.attributeName with
    | none => cases o.direction <;> simp [compareNoneFirst]
    | some y => cases o.direction <;> simp [compareNoneFirst]
  | some x =>
    cases hy : b.present? o.attributeName with
    | none => cases o.direction <;> simp [compareNoneFirst]
    | some y =>
      obtain ⟨order, horder⟩ := Option.isSome_iff_exists.mp (h x hx y hy)
      cases o.direction <;> simp [compareNoneFirst, horder]

/-- Records are compared as equal if they tie under all orders. -/
theorem compareRecords_eq_eq_iff (h : ∀ o ∈ orders, o.Comparable a b) :
    compareRecords orders a b = .eq ↔ TiesAll orders a b := by
  induction orders with
  | nil => simp [compareRecords, TiesAll]
  | cons o orders ih =>
    obtain ⟨ho, horders⟩ := List.forall_mem_cons.mp h
    rw [compareRecords, Ordering.then_eq_eq, (compare_iff ho).1, ih horders, TiesAll, TiesAll,
      List.forall_mem_cons]

/-- A record is compared as less if it stands before the other one. -/
theorem compareRecords_eq_lt_iff (h : ∀ o ∈ orders, o.Comparable a b) :
    compareRecords orders a b = .lt ↔ PrecedesFirst orders a b := by
  induction orders with
  | nil => simp [compareRecords, PrecedesFirst]
  | cons o orders ih =>
    obtain ⟨ho, horders⟩ := List.forall_mem_cons.mp h
    rw [compareRecords, Ordering.then_eq_lt, (compare_iff ho).1, (compare_iff ho).2,
      ih horders]
    constructor
    · rintro (hfirst | ⟨hties, before, o', after, rfl, hbefore, hprecedes⟩)
      · exact ⟨[], o, orders, rfl, fun _ h => absurd h List.not_mem_nil, hfirst⟩
      · exact ⟨o :: before, o', after, rfl, List.forall_mem_cons.mpr ⟨hties, hbefore⟩, hprecedes⟩
    · rintro ⟨before, o', after, heq, hbefore, hprecedes⟩
      rcases List.cons_eq_append_iff.mp heq with ⟨rfl, heq⟩ | ⟨before', rfl, rfl⟩
      · obtain ⟨rfl, rfl⟩ := List.cons.inj heq
        exact .inl hprecedes
      · obtain ⟨hties, hbefore⟩ := List.forall_mem_cons.mp hbefore
        exact .inr ⟨hties, before', o', after, rfl, hbefore, hprecedes⟩

end Compare

/-! ### The comparison of several records -/

section Total

variable {ι : Type} {f : ι → Attributes}

/-- Values that compare pairwise are in a total preorder, together with missing ones. -/
lemma transCmp_compareNoneFirst {g : ι → Option Value}
    (h : ∀ i j, ∀ x ∈ g i, ∀ y ∈ g j, (x.compare? y).isSome = true) :
    TransCmp fun i j => compareNoneFirst (g i) (g j) where
  eq_swap {i j} := by
    cases g i with
    | none => cases g j <;> rfl
    | some x =>
      cases g j with
      | none => rfl
      | some y =>
        rw [compareNoneFirst, compareNoneFirst, Value.compare?_swap x y]
        cases x.compare? y <;> simp
  isLE_trans {i j k} hij hjk := by
    cases hx : g i with
    | none => cases g k <;> rfl
    | some x =>
      cases hy : g j with
      | none => simp [hx, hy, compareNoneFirst] at hij
      | some y =>
        cases hz : g k with
        | none => simp [hy, hz, compareNoneFirst] at hjk
        | some z =>
          obtain ⟨order, hxy⟩ := Option.isSome_iff_exists.mp (h i j x hx y hy)
          obtain ⟨order', hyz⟩ := Option.isSome_iff_exists.mp (h j k y hy z hz)
          rw [hx, hy, compareNoneFirst, hxy] at hij
          rw [hy, hz, compareNoneFirst, hyz] at hjk
          obtain ⟨order'', hxz, hle⟩ := Value.compare?_trans hxy hyz hij hjk
          rw [compareNoneFirst, hxz]
          exact hle

/-- Records whose values compare pairwise are in a total preorder. -/
lemma transCmp_compare {o : SortOrder} (h : ∀ i j, o.Comparable (f i) (f j)) :
    TransCmp fun i j => o.compare (f i) (f j) := by
  have hascending := transCmp_compareNoneFirst (g := fun i => (f i).present? o.attributeName) h
  cases hdirection : o.direction with
  | ascending => simpa only [SortOrder.compare, hdirection] using hascending
  | descending =>
    have hswap : (fun i j => o.compare (f i) (f j)) = fun i j =>
        compareNoneFirst ((f j).present? o.attributeName) ((f i).present? o.attributeName) := by
      funext i j
      simp only [SortOrder.compare, hdirection]
      exact hascending.eq_swap.symm
    rw [hswap]
    exact TransCmp.opposite

/-- Under several orders as well. -/
theorem transCmp_compareRecords {orders : List SortOrder}
    (h : ∀ o ∈ orders, ∀ i j, o.Comparable (f i) (f j)) :
    TransCmp fun i j => compareRecords orders (f i) (f j) := by
  induction orders with
  | nil => exact { eq_swap := rfl, isLE_trans := fun _ _ => rfl }
  | cons o orders ih =>
    obtain ⟨ho, horders⟩ := List.forall_mem_cons.mp h
    have hfirst := transCmp_compare ho
    have hrest := ih horders
    exact inferInstanceAs (TransCmp (compareLex (fun i j => o.compare (f i) (f j))
      fun i j => compareRecords orders (f i) (f j)))

end Total

end SortOrder

/-! ### Stable sorting -/

section Stable

variable {α : Type} {R : α → α → Prop} {l : List α}

/-- Sorting by a total preorder puts each member before those that are greater, and leaves the
members that tie in the order in which they are. -/
lemma pairwise_mergeSort_of_transCmp (cmp : α → α → Ordering) [TransCmp cmp]
    (hl : l.Pairwise R) : (l.mergeSort fun a b => cmp a b != .gt).Pairwise fun a b =>
      cmp a b = .lt ∨ (cmp a b = .eq ∧ R a b) := by
  have hle (a b : α) : (cmp a b != .gt) = (cmp a b).isLE := by cases cmp a b <;> rfl
  have htrans (a b c : α) : (cmp a b != .gt) = true → (cmp b c != .gt) = true →
      (cmp a c != .gt) = true := by
    rw [hle, hle, hle]
    exact TransCmp.isLE_trans
  have htotal (a b : α) : (cmp a b != .gt || cmp b a != .gt) = true := by
    rw [(OrientedCmp.eq_swap : cmp b a = _)]
    cases cmp a b <;> rfl
  induction l with
  | nil => simp
  | cons a l ih =>
    obtain ⟨ha, hl⟩ := List.pairwise_cons.mp hl
    obtain ⟨front, back, hcons, htail, hfront⟩ := List.mergeSort_cons htrans htotal a l
    have hsorted := List.pairwise_mergeSort htrans htotal (a :: l)
    have hrest := ih hl
    rw [hcons] at hsorted ⊢
    rw [htail] at hrest
    obtain ⟨hfrontOrdered, hbackOrdered, hcross⟩ := List.pairwise_append.mp hrest
    have hback := (List.pairwise_cons.mp (List.pairwise_append.mp hsorted).2.1).1
    refine List.pairwise_append.mpr ⟨hfrontOrdered, List.pairwise_cons.mpr ⟨?_, hbackOrdered⟩, ?_⟩
    · -- what comes after `a` is greater, or it ties and has come after `a` before
      intro b hb
      have hmem : b ∈ l := List.mem_mergeSort.mp (htail ▸ List.mem_append_right front hb)
      cases hcmp : cmp a b with
      | lt => exact .inl rfl
      | eq => exact .inr ⟨rfl, ha b hmem⟩
      | gt => exact absurd (hback b hb) (by rw [hcmp]; decide)
    · intro b hb c hc
      rcases List.mem_cons.mp hc with rfl | hc
      · have hgreater : cmp c b = .gt := by simpa using hfront b hb
        exact .inl (OrientedCmp.gt_iff_lt.mp hgreater)
      · exact hcross b hb c hc

end Stable

end RecordGateway
