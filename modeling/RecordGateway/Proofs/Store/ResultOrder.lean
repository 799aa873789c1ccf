import Mathlib
import RecordGateway.Proofs.Store.Journal
import RecordGateway.Proofs.Store.Sorting

/-!
# The order of results

A record may have had many versions, and the first one tells when it was created, because versions
are drawn in the order of time.  A store keeps its records in the order of their first versions: an
update leaves a record in its place with a new version, a deletion leaves the others as they are,
and a record that is deleted and created again comes last.

A query without paging is answered with all records that match it, in the order that its sort
orders demand, and of records that tie the one that was created first comes first.
-/

namespace RecordGateway

open Std

/-- The right member of a pair of lists that correspond has a partner. -/
lemma exists_of_forall₂_of_mem {α β : Type} {R : α → β → Prop} {as : List α} {bs : List β}
    (h : List.Forall₂ R as bs) {b : β} (hb : b ∈ bs) : ∃ a ∈ as, R a b := by
  induction h with
  | nil => exact absurd hb List.not_mem_nil
  | cons hab _ ih =>
    rcases List.mem_cons.mp hb with rfl | hb
    · exact ⟨_, List.mem_cons_self, hab⟩
    · obtain ⟨a, ha, hab⟩ := ih hb
      exact ⟨a, List.mem_cons_of_mem _ ha, hab⟩

/-! ### First versions -/

/-- A store, and for each version the first one of the record that has it. -/
structure Lineage where
  store : Store
  first : Nat → Nat

namespace Lineage

/-- The lineage of a store without records. -/
def empty : Lineage := ⟨.empty, id⟩

/-- The lineage after a change: the version of a record that is added is its first one, and a
record that is written keeps its first version. -/
def apply (l : Lineage) (c : Change) : Lineage where
  store := l.store.apply c
  first := match c with
    | .add _ _ => Function.update l.first (l.store.lastVersion + 1) (l.store.lastVersion + 1)
    | .write logicalName id _ => match l.store.find? logicalName id with
      | some r => Function.update l.first (l.store.lastVersion + 1) (l.first r.version)
      | none => l.first
    | .erase _ _ => l.first

/-- The lineage that a list of changes makes. -/
def ofChanges (changes : List Change) : Lineage :=
  changes.foldl apply empty

/-- A further change is applied to the lineage that the ones before have made. -/
lemma ofChanges_concat (changes : List Change) (c : Change) :
    ofChanges (changes ++ [c]) = (ofChanges changes).apply c := by
  rw [ofChanges, List.foldl_append]
  rfl

/-- The store of a lineage is the one that its changes lead to. -/
lemma store_ofChanges (changes : List Change) :
    (ofChanges changes).store = Store.replay changes := by
  induction changes using List.reverseRecOn with
  | nil => rfl
  | append_singleton changes c ih =>
    rw [ofChanges_concat, Store.replay_concat, ← ih]
    rfl

/-- Whether a record continues one from before a change: it has the same name and identifier, the
same first version, and no earlier version. -/
structure Continues (l l' : Lineage) (a r : StoredRecord) : Prop where
  logicalName_eq : r.logicalName = a.logicalName
  id_eq : r.id = a.id
  version_le : a.version ≤ r.version
  first_eq : l'.first r.version = l.first a.version

section Changes

variable {s : Store} {first : Nat → Nat}

/-- A record that is not written continues itself, whatever the next version is a version of. -/
lemma Continues.refl_update {r : StoredRecord} (hr : r.version ≤ s.lastVersion) (t : Store)
    (v : Nat) :
    Continues ⟨s, first⟩ ⟨t, Function.update first (s.lastVersion + 1) v⟩ r r where
  logicalName_eq := rfl
  id_eq := rfl
  version_le := Nat.le_refl _
  first_eq := Function.update_of_ne (by omega) _ _

/-- A change that writes leaves each record where it stands. -/
lemma forall₂_continues_write (hs : s.Versioned) (logicalName : String) (id : Uuid)
    (f : Attributes → Attributes) :
    List.Forall₂ (Continues ⟨s, first⟩ (apply ⟨s, first⟩ (.write logicalName id f))) s.records
      (s.write logicalName id f).records := by
  rcases s.records_write_cases logicalName id f with
    ⟨hnone, hsame⟩ | ⟨front, a, back, hfind, hl, -, hmod⟩
  · simp only [apply, hnone]
    rw [hsame]
    exact List.forall₂_same.mpr fun r _ => ⟨rfl, rfl, Nat.le_refl _, rfl⟩
  · have hbounded := hs.bounded
    rw [hl] at hbounded
    have hkept (r : StoredRecord) (hr : r ∈ front ++ a :: back) :
        Continues ⟨s, first⟩ ⟨s.write logicalName id f,
          Function.update first (s.lastVersion + 1) (first a.version)⟩ r r :=
      Continues.refl_update (hbounded r hr) _ _
    simp only [apply, hfind]
    rw [hmod, hl]
    refine List.rel_append (List.forall₂_same.mpr fun r hr => hkept r (by simp [hr]))
      (.cons ?_ (List.forall₂_same.mpr fun r hr => hkept r (by simp [hr])))
    exact ⟨rfl, rfl, Nat.le_succ_of_le (hbounded a (by simp)), Function.update_self _ _ _⟩

end Changes

/-- What a change does to the list of the records: those that it leaves stand as they stood, and
one that it adds comes last and has the version that was drawn for it. -/
lemma records_apply {l : Lineage} (hl : l.store.Versioned) (c : Change) :
    ∃ old kept added, old.Sublist l.store.records ∧
      List.Forall₂ (l.Continues (l.apply c)) old kept ∧
      (l.apply c).store.records = kept ++ Option.toList added ∧
      ∀ r ∈ added, ∃ e id, c = .add e id ∧ r.logicalName = e.logicalName ∧ r.id = id ∧
        r.version = l.store.lastVersion + 1 ∧ (l.apply c).first r.version = r.version := by
  obtain ⟨s, first⟩ := l
  cases c with
  | add e id =>
    refine ⟨s.records, s.records, some _, .refl _, ?_, rfl, ?_⟩
    · refine List.forall₂_same.mpr fun r hr => ?_
      exact Continues.refl_update (hl.bounded r hr) _ _
    · rintro r ⟨⟩
      exact ⟨e, id, rfl, rfl, rfl, rfl, Function.update_self _ _ _⟩
  | write logicalName id f =>
    exact ⟨s.records, _, none, .refl _, forall₂_continues_write hl logicalName id f,
      (List.append_nil _).symm, by simp⟩
  | erase logicalName id =>
    refine ⟨_, _, none, List.filter_sublist, List.forall₂_same.mpr fun r _ => ?_,
      (List.append_nil _).symm, by simp⟩
    exact ⟨rfl, rfl, Nat.le_refl _, rfl⟩

/-- Every record after a change continues one from before, or has been added by the change. -/
lemma exists_of_mem_apply {l : Lineage} (hl : l.store.Versioned) {c : Change} {r : StoredRecord}
    (hr : r ∈ (l.apply c).store.records) :
    (∃ a ∈ l.store.records, l.Continues (l.apply c) a r) ∨
      ∃ e id, c = .add e id ∧ r.logicalName = e.logicalName ∧ r.id = id ∧
        r.version = l.store.lastVersion + 1 ∧ (l.apply c).first r.version = r.version := by
  obtain ⟨old, kept, added, hold, hkept, hrecords, hadded⟩ := records_apply hl c
  rw [hrecords] at hr
  rcases List.mem_append.mp hr with hr | hr
  · obtain ⟨a, ha, hcontinues⟩ := exists_of_forall₂_of_mem hkept hr
    exact .inl ⟨a, hold.subset ha, hcontinues⟩
  · exact .inr (hadded r (Option.mem_toList.mp hr))

/-! ### The order of creation -/

/-- A lineage in which the records stand in the order of their first versions, and these are not
later than the versions that the records have. -/
structure Ordered (l : Lineage) : Prop where
  versioned : l.store.Versioned
  first_le : ∀ r ∈ l.store.records, l.first r.version ≤ r.version
  increasing : (l.store.records.map fun r => l.first r.version).Pairwise (· < ·)

/-- A lineage without records is in order. -/
lemma ordered_empty : empty.Ordered where
  versioned := Store.versioned_empty
  first_le _ h := absurd h List.not_mem_nil
  increasing := .nil

/-- Every change keeps the records in the order of their first versions. -/
lemma Ordered.apply {l : Lineage} (hl : l.Ordered) (c : Change) : (l.apply c).Ordered where
  versioned := (Store.edit_apply l.store c).versioned hl.versioned
  first_le r hr := by
    rcases exists_of_mem_apply hl.versioned hr with ⟨a, ha, hcontinues⟩ | ⟨-, -, -, -, -, -, hfirst⟩
    · calc (l.apply c).first r.version = l.first a.version := hcontinues.first_eq
        _ ≤ a.version := hl.first_le a ha
        _ ≤ r.version := hcontinues.version_le
    · exact hfirst.le
  increasing := by
    obtain ⟨old, kept, added, hold, hkept, hrecords, hadded⟩ := records_apply hl.versioned c
    have hfirsts : (kept.map fun r => (l.apply c).first r.version) =
        old.map fun r => l.first r.version := by
      rw [← List.forall₂_eq_eq_eq, List.forall₂_map_left_iff, List.forall₂_map_right_iff]
      exact hkept.flip.imp fun r a hcontinues => hcontinues.first_eq
    rw [hrecords, List.map_append, hfirsts, List.pairwise_append]
    refine ⟨hl.increasing.sublist (hold.map _), ?_, ?_⟩
    · cases added <;> simp
    · -- the version of a record that is added is later than every first version
      intro v hv w hw
      obtain ⟨a, ha, rfl⟩ := List.mem_map.mp hv
      obtain ⟨r, hr, rfl⟩ := List.mem_map.mp hw
      obtain ⟨-, -, -, -, -, hversion, hfirst⟩ := hadded r (Option.mem_toList.mp hr)
      have hfirsta := hl.first_le a (hold.subset ha)
      have hversiona := hl.versioned.bounded a (hold.subset ha)
      omega

/-- The records stand in the order of their first versions. -/
theorem ordered_ofChanges (changes : List Change) : (ofChanges changes).Ordered := by
  induction changes using List.reverseRecOn with
  | nil => exact ordered_empty
  | append_singleton changes c ih =>
    rw [ofChanges_concat]
    exact ih.apply c

/-- The first version of a record is the one that was drawn when a record of its name with its
identifier was added. -/
theorem exists_add_of_mem (changes : List Change) :
    ∀ r ∈ (ofChanges changes).store.records, ∃ before e id, before ++ [.add e id] <+: changes ∧
      e.logicalName = r.logicalName ∧ id = r.id ∧
      (ofChanges changes).first r.version = (Store.replay before).lastVersion + 1 := by
  induction changes using List.reverseRecOn with
  | nil => exact fun r hr => absurd hr List.not_mem_nil
  | append_singleton changes c ih =>
    intro r hr
    rw [ofChanges_concat] at hr ⊢
    rcases exists_of_mem_apply (ordered_ofChanges changes).versioned hr with
      ⟨a, ha, hname, hid, -, hfirst⟩ | ⟨e, id, rfl, hname, hid, hversion, hfirst⟩
    · obtain ⟨before, e, id, hbefore, hname', hid', hfirst'⟩ := ih a ha
      exact ⟨before, e, id, hbefore.trans (List.prefix_append _ _), hname'.trans hname.symm,
        hid'.trans hid.symm, hfirst.trans hfirst'⟩
    · refine ⟨changes, e, id, List.prefix_rfl, hname.symm, hid.symm, ?_⟩
      rw [hfirst, hversion, store_ofChanges]

end Lineage

/-! ### Answers -/

namespace Store

section Rows

variable {q : NativeQuery} {records : List StoredRecord}

/-- The order of the records that match a query, if the values that it sorts by compare. -/
lemma transCmp_matching (h : ∀ o ∈ q.orders, ∀ a ∈ matching q records,
    ∀ b ∈ matching q records, o.Comparable a.attributes b.attributes) :
    TransCmp fun a b : { r // r ∈ matching q records } =>
      compareRecords q.orders a.1.attributes b.1.attributes :=
  SortOrder.transCmp_compareRecords fun o ho a b => h o ho a.1 a.2 b.1 b.2

/-- The rows of a query stand in the order that its sort orders demand, and rows that tie as they
stand in the store. -/
lemma pairwise_rows {R : StoredRecord → StoredRecord → Prop} (hR : records.Pairwise R)
    (h : ∀ o ∈ q.orders, ∀ a ∈ matching q records, ∀ b ∈ matching q records,
      o.Comparable a.attributes b.attributes) :
    (rows q records).Pairwise fun a b =>
      SortOrder.PrecedesFirst q.orders a.attributes b.attributes ∨
        (SortOrder.TiesAll q.orders a.attributes b.attributes ∧ R a b) := by
  have hmatching : (matching q records).Pairwise R := hR.filter _
  by_cases horders : q.orders = []
  · rw [rows_of_orders_eq_nil horders, horders]
    exact hmatching.imp fun hab => .inr ⟨fun _ h => absurd h List.not_mem_nil, hab⟩
  · -- sorting the matching records is sorting them as members of the list of these records
    have hrows : rows q records = ((matching q records).attach.mergeSort fun a b =>
        compareRecords q.orders a.1.attributes b.1.attributes != .gt).map Subtype.val := by
      rw [rows_of_orders_ne_nil horders, List.map_mergeSort, List.attach_map_subtype_val]
      exact fun _ _ _ _ => rfl
    rw [← List.attach_map_subtype_val (matching q records), List.pairwise_map] at hmatching
    have htrans := transCmp_matching h
    rw [hrows, List.pairwise_map]
    refine (pairwise_mergeSort_of_transCmp _ hmatching).imp fun {a b} hab => ?_
    have hcomparable (o : SortOrder) (ho : o ∈ q.orders) := h o ho a.1 a.2 b.1 b.2
    exact hab.imp (SortOrder.compareRecords_eq_lt_iff hcomparable).mp
      (And.imp_left (SortOrder.compareRecords_eq_eq_iff hcomparable).mp)

end Rows

/-! ### Runs -/

/-- The run with a query at its end. -/
def querying (events : List StoreEvent) (q : NativeQuery) : List StoreEvent :=
  events ++ [.step (.retrieveMultiple q)]

/-- The records that a query at the end of a run finds, when the other writers have acted that are
due before it. -/
def found (events : List StoreEvent) (q : NativeQuery) : List StoredRecord :=
  (empty.run (querying events q)).records

/-- The first version of a record that is there at the end of a run, which tells when it was
created. -/
def firstVersion (events : List StoreEvent) (r : StoredRecord) : Nat :=
  (Lineage.ofChanges (empty.journal events)).first r.version

/-- What a query at the end of a run is answered with, if paging is left aside. -/
structure ResultInOrder (events : List StoreEvent) (q : NativeQuery) : Prop where
  /-- The answer is made of the rows that are on the page that the query asks for. -/
  answered : ((empty.run events).retrieveMultiple q).2 =
    .ok ((onPage q.page (rows q (found events q))).map (·.toEntity q.columns))
  /-- The rows are the records that match the query, each as often as it is found. -/
  complete : (rows q (found events q)).Perm (matching q (found events q))
  /-- A record that matches is compared as equal with itself. -/
  compare_self : ∀ a ∈ matching q (found events q),
    compareRecords q.orders a.attributes a.attributes = .eq
  /-- The order of two records that match is swapped with them. -/
  compare_swap : ∀ a ∈ matching q (found events q), ∀ b ∈ matching q (found events q),
    compareRecords q.orders b.attributes a.attributes =
      (compareRecords q.orders a.attributes b.attributes).swap
  /-- The order of records that match is transitive. -/
  compare_trans : ∀ a ∈ matching q (found events q), ∀ b ∈ matching q (found events q),
    ∀ c ∈ matching q (found events q),
      (compareRecords q.orders a.attributes b.attributes).isLE = true →
      (compareRecords q.orders b.attributes c.attributes).isLE = true →
      (compareRecords q.orders a.attributes c.attributes).isLE = true
  /-- A row that comes before another one precedes it under the first sort order that tells them
  apart, or they tie under all of them and the first one was created first. -/
  ordered : (rows q (found events q)).Pairwise fun a b =>
    SortOrder.PrecedesFirst q.orders a.attributes b.attributes ∨
      (SortOrder.TiesAll q.orders a.attributes b.attributes ∧
        firstVersion (querying events q) a < firstVersion (querying events q) b)
  /-- Without sort orders the rows are the records that match, as they were created. -/
  unsorted : q.orders = [] → rows q (found events q) = matching q (found events q)
  /-- All records are found in the order in which they were created. -/
  increasing : (found events q).Pairwise fun a b =>
    firstVersion (querying events q) a < firstVersion (querying events q) b
  /-- The first version of a record is the one that was drawn when a record of its name with its
  identifier was added. -/
  created : ∀ r ∈ found events q, ∃ before e id,
    before ++ [.add e id] <+: empty.journal (querying events q) ∧
      e.logicalName = r.logicalName ∧ id = r.id ∧
      firstVersion (querying events q) r = (replay before).lastVersion + 1
  /-- No change that writes moves a record. -/
  written : ∀ before logicalName id f,
    before ++ [.write logicalName id f] <+: empty.journal (querying events q) →
      ((replay (before ++ [.write logicalName id f])).records.map fun r => (r.logicalName, r.id)) =
        (replay before).records.map fun r => (r.logicalName, r.id)
  /-- No change that erases moves another record. -/
  erased : ∀ before logicalName id,
    before ++ [.erase logicalName id] <+: empty.journal (querying events q) →
      (replay (before ++ [.erase logicalName id])).records =
        (replay before).records.filter fun r => !(r.logicalName == logicalName && r.id == id)

/-- **The order of results.**  If the values of the attributes that a query sorts by compare among
the records that match it, these are in a total preorder, and the rows of the answer stand in it,
with missing values and null first in ascending and last in descending orders; rows that tie, and
all rows of a query that does not sort, stand in the order in which their records were created,
whatever has been written and deleted since then. -/
theorem resultInOrder_run (events : List StoreEvent) (q : NativeQuery)
    (h : ∀ o ∈ q.orders, ∀ a ∈ matching q (found events q), ∀ b ∈ matching q (found events q),
      o.Comparable a.attributes b.attributes) : ResultInOrder events q := by
  have hrecords : found events q =
      (Lineage.ofChanges (empty.journal (querying events q))).store.records := by
    rw [found, records_run, Lineage.store_ofChanges]
  have hincreasing : (found events q).Pairwise fun a b =>
      firstVersion (querying events q) a < firstVersion (querying events q) b := by
    rw [hrecords]
    exact List.pairwise_map.mp (Lineage.ordered_ofChanges _).increasing
  let cmp (a b : { r // r ∈ matching q (found events q) }) : Ordering :=
    compareRecords q.orders a.1.attributes b.1.attributes
  have htrans : TransCmp cmp := transCmp_matching h
  exact {
    answered := by
      rw [found, querying, run_append]
      rfl
    complete := rows_perm_matching
    compare_self := fun a ha => (ReflCmp.compare_self : cmp ⟨a, ha⟩ ⟨a, ha⟩ = .eq)
    compare_swap := fun a ha b hb => htrans.eq_swap (a := ⟨b, hb⟩) (b := ⟨a, ha⟩)
    compare_trans := fun a ha b hb c hc =>
      htrans.isLE_trans (a := ⟨a, ha⟩) (b := ⟨b, hb⟩) (c := ⟨c, hc⟩)
    ordered := pairwise_rows hincreasing h
    unsorted := rows_of_orders_eq_nil
    increasing := hincreasing
    created := by
      rw [hrecords]
      exact Lineage.exists_add_of_mem _
    written := fun before logicalName id f _ => by
      rw [replay_concat, apply, write, map_modifyFirst]
      exact fun _ => rfl
    erased := fun before logicalName id _ => by
      rw [replay_concat]
      rfl }

/-- An account of a given identifier with some revenue. -/
def account (id : Nat) (revenue : Value) : Entity :=
  ⟨"account", some (.ofNat id), none, Attributes.empty.set "revenue" revenue⟩

/-- Some accounts with integers, decimals, null and nothing for revenue, of which one is changed,
one is deleted, and one is to be changed right before the next query. -/
def bookkeeping : List StoreEvent :=
  [.seed (account 1 (.int 3)) .nil, .seed (account 2 (.int 2)) .nil,
    .seed (.named "account") (.ofNat 3), .step (.create (account 4 .null) .nil),
    .step (.create (account 5 (.decimal (.ofInt64 3))) .nil),
    .step (.interleave ⟨.retrieveMultiple, 0, "account", .ofNat 2, .write "revenue" (.int 4)⟩),
    .step (.update (account 1 (.int 3))), .step (.delete "account" (.ofNat 4))]

/-- All accounts, those with the greatest revenue first. -/
def byRevenue : NativeQuery :=
  ⟨"account", .empty, .all, [⟨"revenue", .descending⟩], none⟩

/-- The accounts are found in this order, though the first one was changed later. -/
theorem resultInOrder_bookkeeping : ResultInOrder bookkeeping byRevenue ∧
    (rows byRevenue (found bookkeeping byRevenue)).map (·.id) =
      [.ofNat 2, .ofNat 1, .ofNat 5, .ofNat 3] := by
  refine ⟨resultInOrder_run bookkeeping byRevenue ?_, ?_⟩
  · decide +kernel
  · cbv

end Store

end RecordGateway
