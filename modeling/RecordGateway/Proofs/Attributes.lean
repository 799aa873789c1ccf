import Mathlib.Tactic.Lemma
import RecordGateway.Attributes

/-!
# Attributes as functions

What each operation on attributes does to the value of every name.  Attributes are determined by
their values, so these statements say all there is about them.
-/

namespace RecordGateway

/-! ### Look-ups in lists of entries -/

/-- A filter by keys keeps the values of the keys that satisfy it. -/
lemma lookup_filter {κ ν : Type} [BEq κ] [LawfulBEq κ] (p : κ → Bool) (key : κ)
    (l : List (κ × ν)) :
    (l.filter fun e => p e.1).lookup key = if p key then l.lookup key else none := by
  induction l with
  | nil => simp
  | cons e l ih =>
    obtain ⟨k, v⟩ := e
    by_cases hk : key = k
    · subst hk
      cases hp : p key with
      | true => simp [hp]
      | false => simpa [hp] using ih
    · cases hp : p k <;> simp [hp, List.lookup_cons, beq_eq_false_iff_ne.mpr hk, ih]

namespace Attributes

/-- A name that comes before all names of a list is not in it. -/
lemma lookup_eq_none_of_lt {name : String} {l : List (String × Value)}
    (h : ∀ e ∈ l, name < e.1) : l.lookup name = none := by
  rw [List.lookup_eq_none_iff]
  intro e he
  simpa using (String.ne_of_lt (h e he))

/-- The first name of a sorted list is the first one that has a value. -/
lemma not_lt_of_lookup_isSome {name first : String} {value : Value} {l : List (String × Value)}
    (hl : ∀ e ∈ l, first < e.1) (h : (((first, value) :: l).lookup name).isSome = true) :
    ¬name < first := by
  intro hlt
  have hnone : ((first, value) :: l).lookup name = none :=
    lookup_eq_none_of_lt fun e he => by
      rcases List.mem_cons.mp he with rfl | he
      · exact hlt
      · exact String.lt_trans hlt (hl e he)
  rw [hnone] at h
  cases h

/-- Sorted lists of entries with the same look-ups are equal. -/
lemma eq_of_lookup_eq : ∀ {l l' : List (String × Value)}, l.Pairwise (fun a b => a.1 < b.1) →
    l'.Pairwise (fun a b => a.1 < b.1) → (∀ name, l.lookup name = l'.lookup name) → l = l'
  | [], [], _, _, _ => rfl
  | [], (n, v) :: l', _, _, h => by simpa using h n
  | (n, v) :: l, [], _, _, h => by simpa using h n
  | (n, v) :: l, (n', v') :: l', hl, hl', h => by
    obtain ⟨hn, hrest⟩ := List.pairwise_cons.mp hl
    obtain ⟨hn', hrest'⟩ := List.pairwise_cons.mp hl'
    have hname : n = n' := by
      refine String.le_antisymm (String.not_lt.mp ?_) (String.not_lt.mp ?_)
      · exact not_lt_of_lookup_isSome hn (by rw [h n']; simp)
      · exact not_lt_of_lookup_isSome hn' (by rw [← h n]; simp)
    subst hname
    obtain rfl : v = v' := by simpa using h n
    have htail : l = l' := by
      refine eq_of_lookup_eq hrest hrest' fun name => ?_
      by_cases hne : name = n
      · rw [hne, lookup_eq_none_of_lt hn, lookup_eq_none_of_lt hn']
      · simpa [List.lookup_cons, beq_eq_false_iff_ne.mpr hne] using h name
    rw [htail]

/-- Attributes with the same values are equal. -/
theorem ext_get? {as bs : Attributes} (h : ∀ name, as.get? name = bs.get? name) : as = bs := by
  obtain ⟨entries, hsorted⟩ := as
  obtain ⟨entries', hsorted'⟩ := bs
  obtain rfl : entries = entries' := eq_of_lookup_eq hsorted hsorted' h
  rfl

/-- A restriction keeps the values of the names that satisfy the predicate. -/
theorem get?_restrict (as : Attributes) (p : String → Bool) (name : String) :
    (as.restrict p).get? name = if p name then as.get? name else none :=
  lookup_filter p name as.entries

/-- Setting entries with different names sets each one. -/
theorem get?_setAll (as : Attributes) (name : String) {l : List (String × Value)}
    (hl : l.Pairwise fun a b => a.1 ≠ b.1) :
    (as.setAll l).get? name = (l.lookup name).or (as.get? name) := by
  induction l generalizing as with
  | nil => rfl
  | cons e l ih =>
    obtain ⟨n, v⟩ := e
    obtain ⟨hn, hl⟩ := List.pairwise_cons.mp hl
    rw [setAll, List.foldl_cons, ← setAll, ih _ hl, get?_set]
    by_cases hname : name = n
    · have hnone : l.lookup n = none :=
        List.lookup_eq_none_iff.mpr fun e he => by simpa using hn e he
      simp [hname, hnone]
    · simp [List.lookup_cons, hname, beq_eq_false_iff_ne.mpr hname]

end Attributes

end RecordGateway
