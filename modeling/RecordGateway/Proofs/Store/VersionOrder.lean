import Mathlib.Data.List.Induction
import Mathlib.Data.List.Nodup
import RecordGateway.Proofs.Store.Journal

/-!
# The order of row versions

Row versions are drawn from one counter, by creations, updates and other writers alike, and they are
what readers compare records by.  At every point of a run the versions of the records are different
and lie between one and the counter; whatever writes a record gives it a version that is later than
every version that any record has had.

As long as no record is put in directly where there is one, a reader who finds the same record twice
finds it at a version that is not earlier, and at the same version only if nothing has happened to
the record in between.
-/

namespace RecordGateway

/-- The record to which a change gives a new version, by its name and identifier. -/
def Change.written? (s : Store) : Change → Option (String × Uuid)
  | add e id => some (e.logicalName, id)
  | write logicalName id _ =>
    if (s.find? logicalName id).isSome then some (logicalName, id) else none
  | erase _ _ => none

/-- Whether a change draws a version from the counter. -/
def Change.draws : Change → Bool
  | add _ _ | write _ _ _ => true
  | erase _ _ => false

namespace Store

variable {s t : Store}

/-! ### The counter -/

/-- The counter stands at the number of the versions that have been drawn. -/
lemma lastVersion_replay (changes : List Change) :
    (replay changes).lastVersion = changes.countP Change.draws := by
  induction changes using List.reverseRecOn with
  | nil => rfl
  | append_singleton changes c ih =>
    rw [replay_concat, List.countP_append, ← ih]
    cases c <;> rfl

/-- No record has a version before the first one. -/
lemma Edit.one_le_version (h : s.Edit t) (hs : ∀ r ∈ s.records, 1 ≤ r.version) :
    ∀ r ∈ t.records, 1 ≤ r.version := by
  cases h with
  | retain hrecords _ => exact hrecords ▸ hs
  | add e id =>
    intro r hr
    rcases List.mem_append.mp hr with hr | hr
    · exact hs r hr
    · rw [List.mem_singleton.mp hr]
      exact Nat.succ_pos _
  | write logicalName id f =>
    refine forall_mem_modifyFirst (motive := fun r : StoredRecord => 1 ≤ r.version) ?_ hs
    exact fun _ _ _ => Nat.succ_pos _
  | erase logicalName id => exact fun r hr => hs r (List.mem_filter.mp hr).1

/-- Versions of at least one stay so while a store develops. -/
lemma Develops.one_le_version (h : s.Develops t) (hs : ∀ r ∈ s.records, 1 ≤ r.version) :
    ∀ r ∈ t.records, 1 ≤ r.version := by
  induction h with
  | refl => exact hs
  | tail _ hedit ih => exact hedit.one_le_version ih

/-- After any changes the versions of the records are different and not beyond the counter. -/
lemma versioned_replay (changes : List Change) : (replay changes).Versioned :=
  (develops_foldl_apply changes empty).versioned versioned_empty

/-- Changes that are replayed give versions of at least one. -/
lemma one_le_version_replay (changes : List Change) :
    ∀ r ∈ (replay changes).records, 1 ≤ r.version :=
  (develops_foldl_apply changes empty).one_le_version fun _ h => absurd h List.not_mem_nil

/-! ### Writing -/

/-- A record that is written gets the next version. -/
lemma exists_of_written? {c : Change} {logicalName : String} {id : Uuid}
    (h : c.written? s = some (logicalName, id)) :
    ∃ r ∈ (s.apply c).records, r.logicalName = logicalName ∧ r.id = id ∧
      r.version = s.lastVersion + 1 := by
  cases c with
  | add e key =>
    obtain ⟨rfl, rfl⟩ := Prod.mk.inj (Option.some.inj h)
    exact ⟨_, List.mem_append_right _ (List.mem_singleton_self _), rfl, rfl, rfl⟩
  | write name key f =>
    simp only [Change.written?, Option.ite_none_right_eq_some, Option.some.injEq,
      Prod.mk.injEq] at h
    obtain ⟨hsome, rfl, rfl⟩ := h
    obtain ⟨r, hr⟩ := Option.isSome_iff_exists.mp hsome
    obtain ⟨hname, hid⟩ := isAt_of_find? hr
    have hwritten : (s.write name key f).find? name key =
        some { r with version := s.lastVersion + 1, attributes := f r.attributes } := by
      rw [find?_write, if_pos ⟨rfl, rfl⟩, hr, Option.map_some]
    exact ⟨_, List.mem_of_find?_eq_some hwritten, hname, hid, rfl⟩
  | erase name key => cases h

/-- What an event writes by itself: the record of a creation, of an update and of a direct
insertion that have succeeded. -/
def wrote? (s : Store) : StoreEvent → Option (String × Uuid)
  | .seed e fresh => some (e.logicalName, (s.seed e fresh).2)
  | .step (.create e fresh) => match (s.create e fresh).2 with
    | .ok id => some (e.logicalName, id)
    | .error _ => none
  | .step (.update e) => match (s.update e).2 with
    | .ok () => e.id.map (e.logicalName, ·)
    | .error _ => none
  | _ => none

/-- The last change of an event that writes a record is the one that writes it. -/
lemma changes_of_wrote? {event : StoreEvent} {key : String × Uuid} (h : s.wrote? event = some key) :
    ∃ before c, s.changes event = before ++ [c] ∧
      c.written? (before.foldl apply s.bare) = some key := by
  unfold wrote? at h
  split at h
  · exact ⟨[], .add _ _, rfl, h⟩
  · rename_i e fresh
    split at h
    · rename_i id hid
      exact ⟨_, .add e id, by rw [changes, perform, hid]; rfl, h⟩
    · cases h
  · rename_i e
    split at h
    · rename_i hok
      obtain ⟨-, id, r, hid, hfind, -⟩ := update_eq_ok.mp (Prod.ext rfl hok)
      rw [hid] at h
      refine ⟨s.dueChanges (.update e), .write e.logicalName id (merged e), ?_, ?_⟩
      · rw [changes, perform, hok, StoreStep.change?, hid]
        rfl
      · rw [dueChanges, StoreStep.kind?, ← bare_enter, Change.written?, bare_find?, hfind]
        exact h
    · cases h
  · cases h

/-! ### Reading -/

/-- The records that an event shows to who has made it. -/
def shown (s : Store) : StoreEvent → List Entity
  | .snapshot logicalName id => (s.snapshot logicalName id).toList
  | .step (.retrieve logicalName id columns) =>
    match (s.retrieve logicalName id columns).2 with
    | .ok e => e.toList
    | .error _ => []
  | .step (.retrieveMultiple q) =>
    match (s.retrieveMultiple q).2 with
    | .ok es => es
    | .error _ => []
  | _ => []

/-- What is shown is a record of the store that the event leaves. -/
lemma exists_of_mem_shown {event : StoreEvent} {e : Entity} (h : e ∈ s.shown event) :
    ∃ r ∈ (s.happen event).records, e.logicalName = r.logicalName ∧ e.id = some r.id ∧
      e.rowVersion = some (versionToken r.version) := by
  have hread {t : Store} {logicalName : String} {id : Uuid} {columns : ColumnSet}
      (h : e ∈ ((t.find? logicalName id).map (·.toEntity columns)).toList) :
      ∃ r ∈ t.records, e.logicalName = r.logicalName ∧ e.id = some r.id ∧
        e.rowVersion = some (versionToken r.version) := by
    obtain ⟨r, hr, rfl⟩ := Option.map_eq_some_iff.mp (Option.mem_toList.mp h)
    exact ⟨r, List.mem_of_find?_eq_some hr, rfl, rfl, rfl⟩
  unfold shown at h
  split at h
  · exact hread h
  · exact hread h
  · rename_i q
    obtain ⟨r, hr, rfl⟩ := List.mem_map.mp h
    exact ⟨r, (of_mem_rows (mem_of_mem_onPage hr)).1, rfl, rfl, rfl⟩
  · exact absurd h List.not_mem_nil

/-! ### Records with different keys -/

/-- Whether no two records have the same name and identifier. -/
def DistinctKeys (s : Store) : Prop :=
  (s.records.map fun r => (r.logicalName, r.id)).Nodup

/-- Whether a change adds a record where there is one. -/
def repeats (s : Store) : Change → Bool
  | .add e id => (s.find? e.logicalName id).isSome
  | .write _ _ _ | .erase _ _ => false

/-- Whether no change of a list adds a record where there is one at its time. -/
def NoRepeats (s : Store) : List Change → Prop
  | [] => True
  | c :: changes => s.repeats c = false ∧ (s.apply c).NoRepeats changes

/-- Whether no event of a run puts in a record where there is one at its time. -/
def SeedsNew (s : Store) : List StoreEvent → Prop
  | [] => True
  | event :: events => (∀ e fresh, event = .seed e fresh →
      s.find? e.logicalName (e.id.getD fresh) = none) ∧ (s.happen event).SeedsNew events

/-- An addition that repeats no record finds none. -/
lemma find?_eq_none_of_repeats {e : Entity} {id : Uuid} (h : s.repeats (.add e id) = false) :
    s.find? e.logicalName id = none := by
  rw [repeats, ← Bool.not_eq_true] at h
  exact Option.not_isSome_iff_eq_none.mp h

/-- A change leaves the records alone that it is not about. -/
lemma mem_apply_of_key_ne {c : Change} {r : StoredRecord} (h : c.key ≠ (r.logicalName, r.id)) :
    r ∈ (s.apply c).records ↔ r ∈ s.records := by
  cases c with
  | add e id =>
    refine List.mem_append.trans (or_iff_left fun hr => h ?_)
    rw [List.mem_singleton.mp hr, Change.key]
  | write name key f =>
    have hne {a : StoredRecord} (ha : a.isAt name key = true) : r ≠ a := by
      rintro rfl
      obtain ⟨rfl, rfl⟩ := StoredRecord.isAt_iff.mp ha
      exact h rfl
    rcases s.records_write_cases name key f with
      ⟨-, hsame⟩ | ⟨front, a, back, hfind, hl, -, hmod⟩
    · rw [apply, hsame]
    · have ha : a.isAt name key = true := List.find?_some hfind
      rw [apply, hmod, hl]
      have hnew : r ≠ { a with version := s.lastVersion + 1, attributes := f a.attributes } :=
        hne ha
      simp [hne ha, hnew]
  | erase name key =>
    refine List.mem_filter.trans (and_iff_left ?_)
    rw [Bool.not_eq_true', Bool.eq_false_iff]
    intro hat
    obtain ⟨rfl, rfl⟩ := StoredRecord.isAt_iff.mp hat
    exact h rfl

/-- A record that a change is about has the next version, if it is still there. -/
lemma version_of_key_eq (hs : s.DistinctKeys) {c : Change} (hc : s.repeats c = false)
    {r : StoredRecord} (hr : r ∈ (s.apply c).records) (h : c.key = (r.logicalName, r.id)) :
    r.version = s.lastVersion + 1 := by
  cases c with
  | add e id =>
    rcases List.mem_append.mp hr with hr | hr
    · obtain ⟨hname, hid⟩ := Prod.mk.inj h
      have hnone := find?_eq_none_iff.mp (find?_eq_none_of_repeats hc)
      exact absurd ⟨hname.symm, hid.symm⟩ (hnone r hr)
    · rw [List.mem_singleton.mp hr]
  | write name key f =>
    obtain ⟨rfl, rfl⟩ := Prod.mk.inj h
    have hat : r.isAt r.logicalName r.id = true := StoredRecord.isAt_iff.mpr ⟨rfl, rfl⟩
    rcases s.records_write_cases r.logicalName r.id f with
      ⟨hnone, hsame⟩ | ⟨front, a, back, hfind, hl, hfront, hmod⟩
    · rw [apply, hsame] at hr
      exact absurd ⟨rfl, rfl⟩ (find?_eq_none_iff.mp hnone r hr)
    · rw [apply, hmod] at hr
      rcases List.mem_append.mp hr with hr | hr
      · exact absurd hat (by simp [hfront r hr])
      · rcases List.mem_cons.mp hr with rfl | hr
        · rfl
        · -- a second record with the key of the first one
          obtain ⟨hname, hid⟩ := isAt_of_find? hfind
          rw [DistinctKeys, hl, List.map_append, List.map_cons, List.nodup_append] at hs
          have hnot := (List.nodup_cons.mp hs.2.1).1
          refine absurd (List.mem_map.mpr ⟨r, hr, ?_⟩) hnot
          rw [hname, hid]
  | erase name key =>
    obtain ⟨rfl, rfl⟩ := Prod.mk.inj h
    have hat : r.isAt r.logicalName r.id = true := StoredRecord.isAt_iff.mpr ⟨rfl, rfl⟩
    have hnot := (List.mem_filter.mp hr).2
    rw [hat] at hnot
    cases hnot

/-- The keys stay different if no record is added where there is one. -/
lemma DistinctKeys.apply (hs : s.DistinctKeys) {c : Change} (hc : s.repeats c = false) :
    (s.apply c).DistinctKeys := by
  cases c with
  | add e id =>
    exact nodup_keys_add hs (find?_eq_none_of_repeats hc)
  | write name key f =>
    rw [DistinctKeys, Store.apply, write, map_modifyFirst]
    · exact hs
    · exact fun _ => rfl
  | erase name key => exact hs.sublist (List.filter_sublist.map _)

/-- Some changes and more of them repeat no key if the first do not and the others do not after
them. -/
lemma noRepeats_append {changes changes' : List Change} :
    s.NoRepeats (changes ++ changes') ↔
      s.NoRepeats changes ∧ (changes.foldl apply s).NoRepeats changes' := by
  induction changes generalizing s with
  | nil => simp [NoRepeats]
  | cons c changes ih =>
    rw [List.cons_append, NoRepeats, NoRepeats, List.foldl_cons, ih, and_assoc]

/-- Changes that repeat no key keep the keys distinct. -/
lemma DistinctKeys.foldl_apply (hs : s.DistinctKeys) {changes : List Change}
    (h : s.NoRepeats changes) : (changes.foldl Store.apply s).DistinctKeys := by
  induction changes generalizing s with
  | nil => exact hs
  | cons c changes ih => exact ih (hs.apply h.1) h.2

/-- A list of changes none of which adds a record. -/
lemma noRepeats_of_forall_not_add {changes : List Change}
    (h : ∀ c ∈ changes, ∀ e id, c ≠ .add e id) : s.NoRepeats changes := by
  induction changes generalizing s with
  | nil => trivial
  | cons c changes ih =>
    obtain ⟨hc, hchanges⟩ := List.forall_mem_cons.mp h
    refine ⟨?_, ih hchanges⟩
    cases c with
    | add e id => exact absurd rfl (hc e id)
    | write name key f => rfl
    | erase name key => rfl

/-- Other writers add no records. -/
lemma dueChanges_ne_add (step : StoreStep) :
    ∀ c ∈ s.dueChanges step, ∀ e id, c ≠ .add e id := by
  intro c hc e id
  unfold dueChanges at hc
  split at hc
  · obtain ⟨i, -, rfl⟩ := List.mem_map.mp hc
    unfold Interference.change
    cases i.action <;> exact Change.noConfusion
  · exact absurd hc List.not_mem_nil

/-- An event adds no record where there is one, a direct insertion apart. -/
lemma noRepeats_changes {event : StoreEvent} (h : ∀ e fresh, event = .seed e fresh →
    s.find? e.logicalName (e.id.getD fresh) = none) : s.bare.NoRepeats (s.changes event) := by
  cases event with
  | seed e fresh =>
    refine ⟨?_, trivial⟩
    rw [repeats, bare_find?, h e fresh rfl, Option.isSome_none]
  | snapshot logicalName id => trivial
  | step step =>
    refine noRepeats_append.mpr ⟨noRepeats_of_forall_not_add (dueChanges_ne_add step), ?_⟩
    cases step with
    | create e fresh =>
      rw [dueChanges, StoreStep.kind?, ← bare_enter, perform]
      cases hresult : (s.create e fresh).2 with
      | error _ => trivial
      | ok id =>
        refine ⟨?_, trivial⟩
        unfold create at hresult
        dsimp only at hresult
        split at hresult
        · cases hresult
        · split at hresult
          · cases hresult
          · -- the store adds a record only where it has found none
            rename_i hfind
            cases hresult
            simpa [repeats] using hfind
    | update e =>
      refine noRepeats_of_forall_not_add fun c hc e' id => ?_
      rw [perform] at hc
      cases hresult : (s.update e).2 with
      | error _ => simp [hresult, StoreStep.change?] at hc
      | ok _ =>
        obtain ⟨id', -, rfl⟩ := Option.map_eq_some_iff.mp (Option.mem_toList.mp (hresult ▸ hc))
        exact Change.noConfusion
    | delete logicalName id =>
      refine noRepeats_of_forall_not_add fun c hc e' id' => ?_
      rw [perform] at hc
      cases hresult : (s.delete logicalName id).2 with
      | error _ => simp [hresult, StoreStep.change?] at hc
      | ok _ =>
        rw [hresult] at hc
        rw [← Option.some.inj (Option.mem_toList.mp hc)]
        exact Change.noConfusion
    | _ => trivial

/-- The journal of a run that seeds new records only repeats no key. -/
lemma noRepeats_journal {events : List StoreEvent} (h : s.SeedsNew events) :
    s.bare.NoRepeats (s.journal events) := by
  induction events generalizing s with
  | nil => trivial
  | cons event events ih =>
    refine noRepeats_append.mpr ⟨noRepeats_changes h.1, ?_⟩
    rw [← bare_happen]
    exact ih h.2

/-- What one finds later under the key of a record: the record itself, if no change was about it,
and otherwise a record with a version that was drawn later. -/
lemma eq_or_later (hs : s.DistinctKeys) {changes : List Change} (hno : s.NoRepeats changes)
    {r r' : StoredRecord} (hr : r ∈ s.records) (hr' : r' ∈ (changes.foldl apply s).records)
    (hname : r'.logicalName = r.logicalName) (hid : r'.id = r.id) :
    (r' = r ∧ ∀ c ∈ changes, c.key ≠ (r.logicalName, r.id)) ∨ s.lastVersion < r'.version := by
  induction changes using List.reverseRecOn with
  | nil =>
    have hkey : (r'.logicalName, r'.id) = (r.logicalName, r.id) := Prod.ext hname hid
    exact .inl ⟨List.inj_on_of_nodup_map hs hr' hr hkey, by simp⟩
  | append_singleton changes c ih =>
    obtain ⟨hno, hc, -⟩ := noRepeats_append.mp hno
    rw [List.foldl_append, List.foldl_cons, List.foldl_nil] at hr'
    by_cases hkey : c.key = (r'.logicalName, r'.id)
    · have hle := (develops_foldl_apply changes s).before.lastVersion_le
      have hversion := version_of_key_eq (hs.foldl_apply hno) hc hr' hkey
      omega
    · rcases ih hno ((mem_apply_of_key_ne hkey).mp hr') with ⟨rfl, hchanges⟩ | hlater
      · refine .inl ⟨rfl, List.forall_mem_append.mpr ⟨hchanges, ?_⟩⟩
        exact List.forall_mem_singleton.mpr hkey
      · exact .inr hlater

/-! ### Runs -/

/-- A run that seeds new records only does so in both of its parts. -/
lemma SeedsNew.append {events events' : List StoreEvent} (h : s.SeedsNew (events ++ events')) :
    s.SeedsNew events ∧ (s.run events).SeedsNew events' := by
  induction events generalizing s with
  | nil => exact ⟨trivial, h⟩
  | cons event events ih =>
    obtain ⟨hevents, hevents'⟩ := ih h.2
    exact ⟨⟨h.1, hevents⟩, hevents'⟩

/-- In a run in which every direct insertion is new the records have different keys. -/
lemma distinctKeys_run {events : List StoreEvent} (h : empty.SeedsNew events) :
    (empty.run events).DistinctKeys := by
  have hempty : empty.DistinctKeys := List.nodup_nil
  rw [DistinctKeys, records_run]
  exact hempty.foldl_apply (noRepeats_journal h)

/-- Of two readings of one record in a run in which every direct insertion is new, the later one
does not show an earlier version, and it shows the same one only if no change in between was about
the record. -/
theorem version_le_of_mem_shown {before between : List StoreEvent} {first second : StoreEvent}
    (hnew : empty.SeedsNew (before ++ first :: between ++ [second])) {a b : Entity} {id : Uuid}
    (ha : a ∈ (empty.run before).shown first)
    (hb : b ∈ (empty.run (before ++ first :: between)).shown second)
    (hname : a.logicalName = b.logicalName) (hid : a.id = some id) (hid' : b.id = some id) :
    ∃ v w, a.rowVersion = some (versionToken v) ∧ b.rowVersion = some (versionToken w) ∧
      v ≤ w ∧ (v = w → ∀ c ∈ (empty.run (before ++ [first])).journal (between ++ [second]),
        c.key ≠ (a.logicalName, id)) := by
  obtain ⟨r, hr, hrname, hrid, hrversion⟩ := exists_of_mem_shown ha
  obtain ⟨r', hr', hrname', hrid', hrversion'⟩ := exists_of_mem_shown hb
  -- the store after the first reading, and the events from there to the second one
  have hfirst : (empty.run before).happen first = empty.run (before ++ [first]) :=
    (run_append empty before [first]).symm
  have hsecond : (empty.run (before ++ first :: between)).happen second =
      (empty.run (before ++ [first])).run (between ++ [second]) := by
    rw [← run_append, ← List.append_assoc, List.append_assoc before, List.singleton_append]
    exact (run_append empty (before ++ first :: between) [second]).symm
  have hsplit : before ++ first :: between ++ [second] =
      (before ++ [first]) ++ (between ++ [second]) := by simp
  rw [hfirst] at hr
  rw [hsecond] at hr'
  rw [hsplit] at hnew
  obtain ⟨hnewFirst, hnewRest⟩ := hnew.append
  have hno := noRepeats_journal hnewRest
  have hreplay := congrArg records
    (bare_run_from (empty.run (before ++ [first])) (between ++ [second]))
  have hkeys : (empty.run (before ++ [first])).bare.DistinctKeys := distinctKeys_run hnewFirst
  have hsameId : r'.id = r.id := by
    rw [hid] at hrid
    rw [hid'] at hrid'
    exact (Option.some.inj hrid').symm.trans (Option.some.inj hrid)
  rcases eq_or_later hkeys hno hr (hreplay ▸ hr') (hrname'.symm.trans (hname.symm.trans hrname))
      hsameId with ⟨rfl, hchanges⟩ | hlater
  · refine ⟨r'.version, r'.version, hrversion, hrversion', Nat.le_refl _, fun _ c hc => ?_⟩
    rw [hrname, Option.some.inj (hid.symm.trans hrid)]
    exact hchanges c hc
  · have hle : r.version ≤ (empty.run (before ++ [first])).lastVersion := by
      rw [lastVersion_run]
      exact (versioned_replay _).bounded r (records_run (before ++ [first]) ▸ hr)
    have hlt : r.version < r'.version := Nat.lt_of_le_of_lt hle hlater
    exact ⟨r.version, r'.version, hrversion, hrversion', Nat.le_of_lt hlt,
      fun heq => absurd heq (Nat.ne_of_lt hlt)⟩

/-- What the versions of the records are worth to those who compare records by them, in a run of
events from the empty store. -/
structure VersionsInOrder (events : List StoreEvent) : Prop where
  /-- The journal of the run gives the store after every number of events. -/
  replayed : ∀ before, before <+: events →
    empty.journal before <+: empty.journal events ∧
      (empty.run before).records = (replay (empty.journal before)).records ∧
      (empty.run before).lastVersion = (replay (empty.journal before)).lastVersion
  /-- The counter stands at the number of the versions that have been drawn. -/
  counted : ∀ before, before <+: empty.journal events →
    (replay before).lastVersion = before.countP Change.draws
  /-- At every point the versions lie between one and the counter. -/
  bounded : ∀ before, before <+: empty.journal events → ∀ r ∈ (replay before).records,
    1 ≤ r.version ∧ r.version ≤ (replay before).lastVersion
  /-- At every point the versions of all records, of whatever kinds, are different. -/
  distinct : ∀ before, before <+: empty.journal events →
    ((replay before).records.map StoredRecord.version).Nodup
  /-- A record that is written gets a version later than all that any record has had. -/
  later : ∀ before c, before ++ [c] <+: empty.journal events → ∀ logicalName id,
    c.written? (replay before) = some (logicalName, id) →
      ∃ r ∈ (replay (before ++ [c])).records, r.logicalName = logicalName ∧ r.id = id ∧
        ∀ earlier, earlier <+: before → ∀ r' ∈ (replay earlier).records, r'.version < r.version
  /-- A creation, an update and a direct insertion that succeed write their record. -/
  writes : ∀ before event, before ++ [event] <+: events → ∀ key,
    (empty.run before).wrote? event = some key →
      ∃ changes c, empty.journal (before ++ [event]) = changes ++ [c] ∧
        c.written? (replay changes) = some key
  /-- If every direct insertion is new, of two readings of one record the later one does not show
  an earlier version, and it shows the same version only if no change in between was about the
  record. -/
  reads : empty.SeedsNew events → ∀ before first between second,
    before ++ first :: between ++ [second] <+: events →
      ∀ a ∈ (empty.run before).shown first,
      ∀ b ∈ (empty.run (before ++ first :: between)).shown second,
      ∀ id, a.logicalName = b.logicalName → a.id = some id → b.id = some id →
        ∃ v w, a.rowVersion = some (versionToken v) ∧ b.rowVersion = some (versionToken w) ∧
          v ≤ w ∧ (v = w → ∀ c ∈ (empty.run (before ++ [first])).journal (between ++ [second]),
            c.key ≠ (a.logicalName, id))

/-- **Row versions are unique and increase.**  In every run of a store from the empty one, of direct
insertions, calls and actions of other writers, whether they succeed or not, the versions of the
records are different and lie between one and the counter, each write gives its record a version
that is later than all before, and readers who find a record twice can tell from the versions
whether it has been written in between. -/
theorem versionsInOrder_run (events : List StoreEvent) : VersionsInOrder events where
  replayed before h := ⟨journal_mono h, records_run before, lastVersion_run before⟩
  counted before _ := lastVersion_replay before
  bounded before _ r hr := by
    exact ⟨one_le_version_replay before r hr, (versioned_replay before).bounded r hr⟩
  distinct before _ := (versioned_replay before).distinct
  later before c _ logicalName id hwritten := by
    obtain ⟨r, hr, hname, hid, hversion⟩ := exists_of_written? hwritten
    refine ⟨r, by rwa [replay_concat], hname, hid, fun earlier hearlier r' hr' => ?_⟩
    have hle := (versioned_replay earlier).bounded r' hr'
    have hmono := (develops_replay hearlier).before.lastVersion_le
    omega
  writes before event _ key hwrote := by
    obtain ⟨changes, c, hchanges, hwritten⟩ := changes_of_wrote? hwrote
    refine ⟨empty.journal before ++ changes, c, ?_, ?_⟩
    · rw [journal_append, journal, journal, hchanges, List.append_nil, List.append_assoc]
    · rwa [replay_append, ← bare_run]
  reads hnew before first between second hevents a ha b hb id hname hid hid' := by
    obtain ⟨rest, rfl⟩ := hevents
    exact version_le_of_mem_shown hnew.append.1 ha hb hname hid hid'

/-- A record that is deleted and created again has a later version than before, and another
record that was seeded in between has one of its own. -/
example : (empty.run [.step (.create (.named "account") .nil), .step (.delete "account" .nil),
    .seed (.named "contact") .nil, .step (.create (.named "account") .nil)]).records.map
      (fun r => (r.logicalName, r.version)) = [("contact", 2), ("account", 3)] := by
  decide +kernel

end Store

end RecordGateway
