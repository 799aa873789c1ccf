import Mathlib.Data.List.Basic
import Mathlib.Tactic.Lemma
import RecordGateway.Store.Calls

/-!
# Looking records up

What is found under a name and an identifier after a record has been added, written or erased, and
which records a query asks for.  None of it needs the records to have different identifiers: of
several records with one identifier a store finds and writes the first, and erases all.
-/

namespace RecordGateway

/-- A list with its first member of a kind changed: the members before and after it stay, and
without such a member nothing changes. -/
lemma modifyFirst_cases {α : Type} (p : α → Bool) (f : α → α) (l : List α) :
    (l.find? p = none ∧ modifyFirst p f l = l) ∨
      ∃ front a back, l.find? p = some a ∧ l = front ++ a :: back ∧
        (∀ x ∈ front, p x = false) ∧ p a = true ∧ modifyFirst p f l = front ++ f a :: back := by
  induction l with
  | nil => exact .inl ⟨rfl, rfl⟩
  | cons b l ih =>
    cases hb : p b with
    | true => exact .inr ⟨[], b, l, by simp [hb], rfl, by simp, hb, by simp [modifyFirst, hb]⟩
    | false =>
      simp only [List.find?_cons, hb, modifyFirst, Bool.false_eq_true, if_false]
      rcases ih with ⟨hnone, hsame⟩ | ⟨front, a, back, hfind, hl, hfront, ha, hmod⟩
      · exact .inl ⟨hnone, by rw [hsame]⟩
      · refine .inr ⟨b :: front, a, back, hfind, by rw [hl]; rfl, ?_, ha, by rw [hmod]; rfl⟩
        exact List.forall_mem_cons.mpr ⟨hb, hfront⟩

/-- Changing the first member of a kind, in a way that it stays of its kinds, changes what is
found of this kind. -/
lemma find?_modifyFirst_self {α : Type} {p : α → Bool} {f : α → α} (hf : ∀ a, p (f a) = p a)
    (l : List α) : (modifyFirst p f l).find? p = (l.find? p).map f := by
  induction l with
  | nil => rfl
  | cons a l ih => cases ha : p a <;> simp [modifyFirst, ha, hf, ih]

/-- Changing the first member of a kind does not change what is found of a kind that excludes
it. -/
lemma find?_modifyFirst_of_disjoint {α : Type} {p q : α → Bool} {f : α → α}
    (hf : ∀ a, q (f a) = q a) (hpq : ∀ a, p a = true → q a = false) (l : List α) :
    (modifyFirst p f l).find? q = l.find? q := by
  induction l with
  | nil => rfl
  | cons a l ih =>
    cases ha : p a with
    | true => simp [modifyFirst, ha, hf, hpq a ha]
    | false => simp [modifyFirst, ha, List.find?_cons, ih]

/-- A property of all members is kept if it is kept by the change. -/
lemma forall_mem_modifyFirst {α : Type} {p : α → Bool} {f : α → α} {motive : α → Prop}
    (hf : ∀ a, p a = true → motive a → motive (f a)) {l : List α} (h : ∀ a ∈ l, motive a) :
    ∀ a ∈ modifyFirst p f l, motive a := by
  induction l with
  | nil => exact h
  | cons b l ih =>
    obtain ⟨hb, hl⟩ := List.forall_mem_cons.mp h
    unfold modifyFirst
    split
    · exact List.forall_mem_cons.mpr ⟨hf b ‹_› hb, hl⟩
    · exact List.forall_mem_cons.mpr ⟨hb, ih hl⟩

/-- A function of the members that the change respects has the same values. -/
lemma map_modifyFirst {α β : Type} {p : α → Bool} {f : α → α} {g : α → β}
    (hf : ∀ a, g (f a) = g a) (l : List α) : (modifyFirst p f l).map g = l.map g := by
  induction l with
  | nil => rfl
  | cons a l ih => cases ha : p a <;> simp [modifyFirst, ha, hf, ih]

namespace StoredRecord

/-- A record is at a place precisely if it has the name and the identifier. -/
lemma isAt_iff {logicalName : String} {id : Uuid} {r : StoredRecord} :
    r.isAt logicalName id = true ↔ r.logicalName = logicalName ∧ r.id = id := by
  simp [isAt]

end StoredRecord

namespace Store

variable (s : Store) (logicalName name : String) (id key : Uuid)

/-- The name and the identifier of a record that is found are those it was looked up under. -/
lemma isAt_of_find? {s : Store} {logicalName : String} {id : Uuid} {r : StoredRecord}
    (h : s.find? logicalName id = some r) : r.logicalName = logicalName ∧ r.id = id :=
  StoredRecord.isAt_iff.mp (List.find?_some h)

/-- Nothing is found where no record has the name and the identifier. -/
lemma find?_eq_none_iff {s : Store} {logicalName : String} {id : Uuid} :
    s.find? logicalName id = none ↔
      ∀ r ∈ s.records, ¬(r.logicalName = logicalName ∧ r.id = id) := by
  rw [find?, List.find?_eq_none]
  exact forall₂_congr fun r _ => not_congr StoredRecord.isAt_iff

/-- A write changes the record that it finds and leaves it where it stands; without such a record
it changes none. -/
lemma records_write_cases (f : Attributes → Attributes) :
    (s.find? logicalName id = none ∧ (s.write logicalName id f).records = s.records) ∨
      ∃ front r back, s.find? logicalName id = some r ∧ s.records = front ++ r :: back ∧
        (∀ a ∈ front, a.isAt logicalName id = false) ∧
        (s.write logicalName id f).records = front ++
          { r with version := s.lastVersion + 1, attributes := f r.attributes } :: back := by
  rcases modifyFirst_cases (·.isAt logicalName id)
      (fun r => { r with version := s.lastVersion + 1, attributes := f r.attributes })
      s.records with ⟨hnone, hsame⟩ | ⟨front, r, back, hfind, hl, hfront, -, hmod⟩
  · exact .inl ⟨hnone, hsame⟩
  · exact .inr ⟨front, r, back, hfind, hl, hfront, hmod⟩

/-- Records with different names and identifiers keep them different when one is added where there
is none. -/
lemma nodup_keys_add {s : Store} {e : Entity} {id : Uuid}
    (hs : (s.records.map fun r => (r.logicalName, r.id)).Nodup)
    (hnone : s.find? e.logicalName id = none) :
    ((s.add e id).records.map fun r => (r.logicalName, r.id)).Nodup := by
  rw [add, List.map_append, List.nodup_append]
  refine ⟨hs, by simp, ?_⟩
  rintro key hkey _ hadded rfl
  obtain ⟨r, hr, rfl⟩ := List.mem_map.mp hkey
  obtain ⟨hname, hid⟩ : r.logicalName = e.logicalName ∧ r.id = id := by simpa using hadded
  exact find?_eq_none_iff.mp hnone r hr ⟨hname, hid⟩

/-- A record that is added is found where there was none. -/
theorem find?_add (e : Entity) :
    (s.add e id).find? name key =
      (s.find? name key).or (if e.logicalName = name ∧ id = key then
        some ⟨e.logicalName, id, s.lastVersion + 1,
          e.attributes.set (primaryAttribute e.logicalName) (.uuid id)⟩ else none) := by
  rw [find?, add, List.find?_append, find?]
  congr 1
  by_cases h : e.logicalName = name ∧ id = key <;>
    simp [StoredRecord.isAt, h]

/-- A record that is written is found with its new version and contents. -/
theorem find?_write (f : Attributes → Attributes) :
    (s.write logicalName id f).find? name key =
      if name = logicalName ∧ key = id then
        (s.find? logicalName id).map fun r =>
          { r with version := s.lastVersion + 1, attributes := f r.attributes }
      else s.find? name key := by
  split
  case isTrue h =>
    obtain ⟨rfl, rfl⟩ := h
    refine find?_modifyFirst_self ?_ s.records
    exact fun _ => rfl
  case isFalse h =>
    refine find?_modifyFirst_of_disjoint ?_ (fun r hr => ?_) s.records
    · exact fun _ => rfl
    · rw [Bool.eq_false_iff]
      intro hr'
      obtain ⟨rfl, rfl⟩ := StoredRecord.isAt_iff.mp hr
      obtain ⟨rfl, rfl⟩ := StoredRecord.isAt_iff.mp hr'
      exact h ⟨rfl, rfl⟩

/-- A record that is erased is not found. -/
theorem find?_erase :
    (s.erase logicalName id).find? name key =
      if name = logicalName ∧ key = id then none else s.find? name key := by
  rw [find?, erase, List.find?_filter]
  split
  case isTrue h =>
    obtain ⟨rfl, rfl⟩ := h
    simp
  case isFalse h =>
    rw [find?]
    congr 1
    funext r
    cases hr : r.isAt name key with
    | false => simp
    | true =>
      obtain ⟨rfl, rfl⟩ := StoredRecord.isAt_iff.mp hr
      simpa [StoredRecord.isAt, ← not_and_or] using h

/-! ### What a query asks for -/

/-- The records of a list that match a query, in its order. -/
def matching (q : NativeQuery) (records : List StoredRecord) : List StoredRecord :=
  records.filter fun r => r.logicalName == q.entityName && q.criteria.holds r.attributes

/-- What stands on a page is among the rows. -/
lemma mem_of_mem_onPage {α : Type} {page : Option Page} {rows : List α} {a : α}
    (h : a ∈ onPage page rows) : a ∈ rows := by
  unfold onPage at h
  split at h
  · exact List.mem_of_mem_drop (List.mem_of_mem_take h)
  · exact h

section Rows

variable {q : NativeQuery} {records : List StoredRecord}

/-- Without keys for sorting the rows come as they are stored. -/
lemma rows_of_orders_eq_nil (h : q.orders = []) : rows q records = matching q records := by
  rw [rows, h]
  rfl

/-- With keys for sorting the rows come sorted by them. -/
lemma rows_of_orders_ne_nil (h : q.orders ≠ []) :
    rows q records = (matching q records).mergeSort fun a b =>
      compareRecords q.orders a.attributes b.attributes != .gt := by
  rw [rows, if_neg (by simpa using h)]
  rfl

/-- A query asks for the records that match it. -/
lemma rows_perm_matching : (rows q records).Perm (matching q records) := by
  by_cases h : q.orders = []
  · rw [rows_of_orders_eq_nil h]
  · rw [rows_of_orders_ne_nil h]
    exact List.mergeSort_perm _ _

/-- The rows of a query are records of the kind that it asks for. -/
lemma of_mem_rows {row : StoredRecord} (h : row ∈ rows q records) :
    row ∈ records ∧ row.logicalName = q.entityName := by
  obtain ⟨hmem, hmatch⟩ := List.mem_filter.mp (rows_perm_matching.subset h)
  exact ⟨hmem, beq_iff_eq.mp (Bool.and_eq_true_iff.mp hmatch).1⟩

end Rows

end Store

end RecordGateway
