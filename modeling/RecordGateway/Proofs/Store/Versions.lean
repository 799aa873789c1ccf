import Mathlib.Logic.Relation
import Mathlib.Tactic.Lemma
import RecordGateway.Proofs.Store.Lookup

/-!
# Row versions

What a store does to its records comes down to four edits: records are added, written and erased,
and much of what a store does leaves them alone.  Each version that is given out is new, so the
records have different versions, a record that is found at an old version has not been written
since, and a version that has been written over never comes back.
-/

namespace RecordGateway

/-- Different versions have different tokens. -/
lemma versionToken_injective : Function.Injective versionToken := by
  intro m n h
  have hdigits : Nat.toDigits 10 m = Nat.toDigits 10 n := String.ofList_injective h
  calc m = Nat.ofDigitChars 10 (Nat.toDigits 10 m) 0 := Nat.ofDigitChars_ten_toDigits.symm
    _ = n := by rw [hdigits, Nat.ofDigitChars_ten_toDigits]

namespace Store

/-! ### Edits -/

/-- One change of the records of a store. -/
inductive Edit (s : Store) : Store → Prop where
  | retain {t : Store} (records : t.records = s.records)
      (lastVersion : t.lastVersion = s.lastVersion) : Edit s t
  | add (e : Entity) (id : Uuid) : Edit s (s.add e id)
  | write (logicalName : String) (id : Uuid) (f : Attributes → Attributes) :
      Edit s (s.write logicalName id f)
  | erase (logicalName : String) (id : Uuid) : Edit s (s.erase logicalName id)

/-- A store at one time and at a later one. -/
abbrev Develops : Store → Store → Prop :=
  Relation.ReflTransGen Edit

/-- A store whose records are the same has developed. -/
lemma develops_of_eq {s t : Store} (hrecords : t.records = s.records)
    (hversion : t.lastVersion = s.lastVersion) : s.Develops t :=
  .single (.retain hrecords hversion)

/-- Another writer makes one edit. -/
lemma edit_interfere (s : Store) (i : Interference) : s.Edit (s.interfere i) := by
  unfold interfere
  cases i.action with
  | write name value => exact .write _ _ _
  | delete => exact .erase _ _

/-- Several other writers make one edit after the other. -/
lemma develops_foldl_interfere (due : List Interference) (s : Store) :
    s.Develops (due.foldl interfere s) := by
  induction due generalizing s with
  | nil => exact .refl
  | cons i due ih => exact .head (edit_interfere s i) (ih _)

/-- At the start of a call a store develops by what the other writers do. -/
lemma develops_enter (s : Store) (kind : CallKind) : s.Develops (s.enter kind) :=
  .trans (develops_of_eq rfl rfl : s.Develops { s with
    counts := s.counts.count kind
    pending := (s.pending.filter fun i => !i.isDue kind).map (·.wait kind) })
    (develops_foldl_interfere _ _)

/-! ### Calls -/

section Calls

variable (s : Store)

/-- The opening of a session leaves the records alone. -/
lemma connect_quiet (token : String) :
    (s.connect token).1.records = s.records ∧ (s.connect token).1.lastVersion = s.lastVersion := by
  unfold connect
  split <;> exact ⟨rfl, rfl⟩

/-- To open a session is to develop a store. -/
lemma develops_connect (token : String) : s.Develops (s.connect token).1 :=
  develops_of_eq (s.connect_quiet token).1 (s.connect_quiet token).2

/-- To create a record is to develop the store that the call finds. -/
lemma develops_create (e : Entity) (fresh : Uuid) :
    (s.enter .create).Develops (s.create e fresh).1 := by
  unfold create
  dsimp only
  split
  · exact .refl
  · split
    · exact .refl
    · exact .single (.add _ _)

/-- When an update is applied, and what it leaves. -/
theorem update_eq_ok {s t : Store} {e : Entity} :
    s.update e = (t, .ok ()) ↔
      (s.enter .update).rejectWrites = false ∧ ∃ id r, e.id = some id ∧
        (s.enter .update).find? e.logicalName id = some r ∧
        (∀ v, e.rowVersion = some v → v = versionToken r.version) ∧
        t = (s.enter .update).write e.logicalName id (merged e) := by
  unfold update
  dsimp only
  cases (s.enter .update).rejectWrites with
  | true => simp
  | false =>
    cases e.id with
    | none => simp
    | some id =>
      cases hfind : (s.enter .update).find? e.logicalName id with
      | none => simp [hfind]
      | some r => cases e.rowVersion <;> grind

/-- An update that is refused leaves the store that the other writers left. -/
theorem update_eq_error {s t : Store} {e : Entity} {error : StoreError}
    (h : s.update e = (t, .error error)) : t = s.enter .update := by
  unfold update at h
  dsimp only at h
  repeat' split at h
  all_goals simp_all

/-- To update a record is to develop the store that the call finds. -/
lemma develops_update (e : Entity) : (s.enter .update).Develops (s.update e).1 := by
  cases h : s.update e with
  | mk t result =>
    cases result with
    | ok _ =>
      obtain ⟨-, id, -, -, -, -, rfl⟩ := update_eq_ok.mp h
      exact .single (.write _ _ _)
    | error _ => exact update_eq_error h ▸ .refl

/-- To delete a record is to develop the store that the call finds. -/
lemma develops_delete (logicalName : String) (id : Uuid) :
    (s.enter .delete).Develops (s.delete logicalName id).1 := by
  unfold delete
  dsimp only
  split
  · exact .refl
  · exact .single (.erase _ _)

end Calls

/-! ### Distinct versions -/

/-- The records of a store have different versions, and none is later than the last one that was
given out. -/
structure Versioned (s : Store) : Prop where
  distinct : (s.records.map StoredRecord.version).Nodup
  bounded : ∀ r ∈ s.records, r.version ≤ s.lastVersion

/-- The empty store has no versions. -/
lemma versioned_empty : empty.Versioned where
  distinct := List.nodup_nil
  bounded _ h := absurd h List.not_mem_nil

section Versioned

variable {s t : Store}

/-- A record that is added has a version of its own. -/
lemma Versioned.add (hs : s.Versioned) (e : Entity) (id : Uuid) : (s.add e id).Versioned where
  distinct := by
    rw [Store.add, List.map_append, List.nodup_append]
    refine ⟨hs.distinct, by simp, ?_⟩
    rintro v hv w hw rfl
    obtain ⟨r, hr, rfl⟩ := List.mem_map.mp hv
    have hle := hs.bounded r hr
    rw [List.map_singleton, List.mem_singleton] at hw
    exact absurd (hw ▸ hle) (Nat.not_succ_le_self _)
  bounded r hr := by
    rcases List.mem_append.mp hr with hr | hr
    · exact Nat.le_succ_of_le (hs.bounded r hr)
    · exact List.mem_singleton.mp hr ▸ Nat.le_refl _

/-- A record that is written gets a version of its own. -/
lemma Versioned.write (hs : s.Versioned) (logicalName : String) (id : Uuid)
    (f : Attributes → Attributes) : (s.write logicalName id f).Versioned := by
  obtain ⟨hdistinct, hbounded⟩ := hs
  rcases s.records_write_cases logicalName id f with
    ⟨-, hsame⟩ | ⟨front, a, back, -, hl, -, hmod⟩
  · refine ⟨by rw [hsame]; exact hdistinct, fun r hr => ?_⟩
    rw [hsame] at hr
    exact Nat.le_succ_of_le (hbounded r hr)
  · rw [hl] at hdistinct hbounded
    constructor
    · rw [hmod]
      simp only [List.map_append, List.map_cons, List.nodup_append, List.nodup_cons,
        List.mem_map, List.mem_cons] at hdistinct ⊢
      grind
    · intro r hr
      rw [hmod] at hr
      simp only [Store.write]
      grind

/-- The records that are left have the versions they had. -/
lemma Versioned.erase (hs : s.Versioned) (logicalName : String) (id : Uuid) :
    (s.erase logicalName id).Versioned where
  distinct := hs.distinct.sublist (List.filter_sublist.map _)
  bounded r hr := hs.bounded r (List.mem_filter.mp hr).1

/-- Every edit keeps the versions different. -/
lemma Edit.versioned (h : s.Edit t) (hs : s.Versioned) : t.Versioned := by
  cases h with
  | retain hrecords hversion =>
    exact ⟨hrecords ▸ hs.distinct, by rw [hrecords, hversion]; exact hs.bounded⟩
  | add e id => exact hs.add e id
  | write logicalName id f => exact hs.write logicalName id f
  | erase logicalName id => exact hs.erase logicalName id

end Versioned

/-- The versions stay different while a store develops. -/
theorem Develops.versioned {s t : Store} (h : s.Develops t) (hs : s.Versioned) : t.Versioned := by
  induction h with
  | refl => exact hs
  | tail _ hedit ih => exact hedit.versioned ih

/-! ### What has an old version -/

/-- What one knows at a later time about the records with versions of an earlier one: they have
been there unchanged. -/
structure Before (s t : Store) : Prop where
  lastVersion_le : s.lastVersion ≤ t.lastVersion
  mem_of_mem : ∀ r ∈ t.records, r.version ≤ s.lastVersion → r ∈ s.records
  find?_of_find? : ∀ {logicalName id r}, t.find? logicalName id = some r →
    r.version ≤ s.lastVersion → s.find? logicalName id = some r

/-- A store is before itself. -/
lemma Before.refl (s : Store) : s.Before s :=
  ⟨Nat.le_refl _, fun _ h _ => h, fun h _ => h⟩

/-- What is before an earlier store is before a later one. -/
lemma Before.trans {s t u : Store} (hst : s.Before t) (htu : t.Before u) : s.Before u where
  lastVersion_le := Nat.le_trans hst.lastVersion_le htu.lastVersion_le
  mem_of_mem r hr hle :=
    hst.mem_of_mem r (htu.mem_of_mem r hr (Nat.le_trans hle hst.lastVersion_le)) hle
  find?_of_find? hr hle :=
    hst.find?_of_find? (htu.find?_of_find? hr (Nat.le_trans hle hst.lastVersion_le)) hle

/-- A store is before the one with a further record. -/
lemma before_add (s : Store) (e : Entity) (id : Uuid) : s.Before (s.add e id) where
  lastVersion_le := Nat.le_succ _
  mem_of_mem r hr hle := by
    rcases List.mem_append.mp hr with hr | hr
    · exact hr
    · rw [List.mem_singleton.mp hr] at hle
      exact absurd hle (Nat.not_succ_le_self _)
  find?_of_find? {name key r} hr hle := by
    rw [find?_add] at hr
    rcases Option.or_eq_some_iff.mp hr with hr | ⟨-, hr⟩
    · exact hr
    · split at hr
      · cases hr
        exact absurd hle (Nat.not_succ_le_self _)
      · cases hr

/-- A store is before the one with a record written. -/
lemma before_write (s : Store) (logicalName : String) (id : Uuid)
    (f : Attributes → Attributes) : s.Before (s.write logicalName id f) where
  lastVersion_le := Nat.le_succ _
  mem_of_mem r hr hle := by
    rcases s.records_write_cases logicalName id f with
      ⟨-, hsame⟩ | ⟨front, a, back, -, hl, -, hmod⟩
    · rwa [hsame] at hr
    · rw [hmod] at hr
      rw [hl]
      grind
  find?_of_find? {name key r} hr hle := by
    rw [find?_write] at hr
    split at hr
    · obtain ⟨a, -, rfl⟩ := Option.map_eq_some_iff.mp hr
      exact absurd hle (Nat.not_succ_le_self _)
    · exact hr

/-- A store is before the one without a record. -/
lemma before_erase (s : Store) (logicalName : String) (id : Uuid) :
    s.Before (s.erase logicalName id) where
  lastVersion_le := Nat.le_refl _
  mem_of_mem r hr _ := (List.mem_filter.mp hr).1
  find?_of_find? {name key r} hr _ := by
    rw [find?_erase] at hr
    split at hr
    · cases hr
    · exact hr

/-- The records that an edit touches get a version that has not been there. -/
lemma Edit.before {s t : Store} (h : s.Edit t) : s.Before t := by
  cases h with
  | retain hrecords hversion =>
    refine ⟨Nat.le_of_eq hversion.symm, fun r hr _ => hrecords ▸ hr, fun hr _ => ?_⟩
    rwa [find?, hrecords] at hr
  | add e id => exact before_add s e id
  | write logicalName id f => exact before_write s logicalName id f
  | erase logicalName id => exact before_erase s logicalName id

/-- A record with an old version has been there unchanged since then. -/
theorem Develops.before {s t : Store} (h : s.Develops t) : s.Before t := by
  induction h with
  | refl => exact .refl s
  | tail _ hedit ih => exact ih.trans hedit.before

/-! ### Versions that are written over -/

/-- Whether a version has been given out and no record has it any more. -/
def Spent (s : Store) (version : Nat) : Prop :=
  version ≤ s.lastVersion ∧ ∀ r ∈ s.records, r.version ≠ version

/-- A version that has been written over stays so. -/
theorem Spent.develops {s t : Store} {version : Nat} (h : s.Spent version) (hst : s.Develops t) :
    t.Spent version := by
  have hbefore := hst.before
  refine ⟨Nat.le_trans h.1 hbefore.lastVersion_le, fun r hr hv => ?_⟩
  exact h.2 r (hbefore.mem_of_mem r hr (hv ▸ h.1)) hv

/-- Writing to a record uses up the version that the record had. -/
theorem spent_write {s : Store} (hs : s.Versioned) {logicalName : String} {id : Uuid}
    {r : StoredRecord} (hr : s.find? logicalName id = some r) (f : Attributes → Attributes) :
    (s.write logicalName id f).Spent r.version := by
  rcases s.records_write_cases logicalName id f with
    ⟨hnone, -⟩ | ⟨front, a, back, hfind, hl, -, hmod⟩
  · simp [hnone] at hr
  · obtain rfl : a = r := Option.some.inj (hfind.symm.trans hr)
    have hdistinct := hs.distinct
    have hle := hs.bounded a (List.mem_of_find?_eq_some hr)
    refine ⟨Nat.le_succ_of_le hle, ?_⟩
    rw [hl] at hdistinct
    rw [hmod]
    simp only [List.map_append, List.map_cons, List.nodup_append, List.nodup_cons,
      List.mem_map, List.mem_cons] at hdistinct
    grind

end Store

end RecordGateway
