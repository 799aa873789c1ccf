import Mathlib.Data.List.Nodup
import RecordGateway.Proofs.Attributes
import RecordGateway.Proofs.Store.Lookup
import RecordGateway.Proofs.Store.RecordMap

/-!
# Stores as maps of records

A store keeps its records in a list, finds the first one and erases all.  As long as no name and
identifier occur twice, and the other writers spare the attribute that holds the identifier, it
cannot be told from a map of records: both give the same answers, step after step, and the records
of the store are the entries of the map.
-/

namespace RecordGateway

/-- Whether an action of another writer spares the attribute that holds the identifier. -/
def Interference.SparesId (i : Interference) : Prop :=
  ∀ name value, i.action = .write name value → name ≠ primaryAttribute i.logicalName

/-- Whether the actions that a step schedules spare the attributes that hold identifiers. -/
def StoreStep.SparesId : StoreStep → Prop
  | interleave i => i.SparesId
  | _ => True

/-- The row of a record. -/
def StoredRecord.row (r : StoredRecord) : Row where
  version := r.version
  value := r.attributes.get?

/-- A record that is read whole shows all of its attributes. -/
lemma StoredRecord.get?_toEntity_all (r : StoredRecord) (name : String) :
    (r.toEntity .all).get? name = r.attributes.get? name := by
  refine (Attributes.get?_restrict _ _ name).trans (if_pos ?_)
  rw [ColumnSet.includes, Bool.or_true]

namespace Store

/-- The map of the records. -/
def toMap (s : Store) : MapStore where
  rows name key := (s.find? name key).map StoredRecord.row
  lastVersion := s.lastVersion
  rejectWrites := s.rejectWrites
  pending := s.pending

/-- The row of a map is the record that the store finds. -/
@[simp] lemma toMap_rows (s : Store) (name : String) (key : Uuid) :
    s.toMap.rows name key = (s.find? name key).map StoredRecord.row := rfl

/-- A map has the last version of its store. -/
@[simp] lemma toMap_lastVersion (s : Store) : s.toMap.lastVersion = s.lastVersion := rfl

/-- A map rejects writes if its store does. -/
@[simp] lemma toMap_rejectWrites (s : Store) : s.toMap.rejectWrites = s.rejectWrites := rfl

/-- A store in which no identifier occurs twice under a name, each record holds its identifier as
an attribute, and the actions of other writers spare these attributes. -/
structure Consistent (s : Store) : Prop where
  distinct : (s.records.map fun r => (r.logicalName, r.id)).Nodup
  holdsId : ∀ r ∈ s.records, r.attributes.get? (primaryAttribute r.logicalName) = some (.uuid r.id)
  sparesId : ∀ i ∈ s.pending, i.SparesId

variable {s : Store} {e : Entity} {id : Uuid} {logicalName : String}

/-! ### Edits of consistent stores -/

/-- In a consistent store every record is found. -/
lemma Consistent.find?_of_mem (hs : s.Consistent) {r : StoredRecord} (hr : r ∈ s.records) :
    s.find? r.logicalName r.id = some r := by
  cases hfind : s.find? r.logicalName r.id with
  | none =>
    have hno := List.find?_eq_none.mp hfind r hr
    exact absurd (StoredRecord.isAt_iff.mpr ⟨rfl, rfl⟩) hno
  | some r' =>
    obtain ⟨hname, hid⟩ := isAt_of_find? hfind
    have hkey : (r'.logicalName, r'.id) = (r.logicalName, r.id) := Prod.ext hname hid
    rw [List.inj_on_of_nodup_map hs.distinct (List.mem_of_find?_eq_some hfind) hr hkey]

/-- A record may be added where there is none. -/
lemma Consistent.add (hs : s.Consistent) (hnone : s.find? e.logicalName id = none) :
    (s.add e id).Consistent where
  distinct := nodup_keys_add hs.distinct hnone
  holdsId r hr := by
    rcases List.mem_append.mp hr with hr | hr
    · exact hs.holdsId r hr
    · rw [List.mem_singleton.mp hr, Attributes.get?_set, if_pos rfl]
  sparesId := hs.sparesId

/-- A record may be written if its identifier is kept. -/
lemma Consistent.write (hs : s.Consistent) {f : Attributes → Attributes}
    (hf : ∀ as, (f as).get? (primaryAttribute logicalName) =
      as.get? (primaryAttribute logicalName)) : (s.write logicalName id f).Consistent where
  distinct := by
    rw [Store.write, map_modifyFirst]
    · exact hs.distinct
    · exact fun _ => rfl
  holdsId := by
    refine forall_mem_modifyFirst (fun r hr h => ?_) hs.holdsId
    obtain ⟨rfl, -⟩ := StoredRecord.isAt_iff.mp hr
    exact (hf r.attributes).trans h
  sparesId := hs.sparesId

/-- A store stays consistent if a record is erased. -/
lemma Consistent.erase (hs : s.Consistent) : (s.erase logicalName id).Consistent where
  distinct := hs.distinct.sublist (List.filter_sublist.map _)
  holdsId r hr := hs.holdsId r (List.mem_filter.mp hr).1
  sparesId := hs.sparesId

/-- Another writer who spares the identifiers keeps a store consistent. -/
lemma Consistent.interfere (hs : s.Consistent) {i : Interference} (hi : i.SparesId) :
    (s.interfere i).Consistent := by
  unfold Store.interfere
  cases haction : i.action with
  | write name value =>
    refine hs.write fun as => ?_
    rw [Attributes.get?_set, if_neg (Ne.symm (hi name value haction))]
  | delete => exact hs.erase

/-- A store stays consistent under other writers that spare the identifiers. -/
lemma consistent_foldl_interfere {due : List Interference} (hdue : ∀ i ∈ due, i.SparesId)
    (hs : s.Consistent) : (due.foldl interfere s).Consistent := by
  induction due generalizing s with
  | nil => exact hs
  | cons i due ih =>
    obtain ⟨hi, hdue⟩ := List.forall_mem_cons.mp hdue
    exact ih hdue (hs.interfere hi)

/-- The start of a call keeps a store consistent. -/
lemma Consistent.enter (hs : s.Consistent) (kind : CallKind) : (s.enter kind).Consistent := by
  refine consistent_foldl_interfere
    (fun i hi => hs.sparesId i (List.mem_filter.mp hi).1) ⟨hs.distinct, hs.holdsId, ?_⟩
  intro i hi
  obtain ⟨i', hi', rfl⟩ := List.mem_map.mp hi
  have hspares := hs.sparesId i' (List.mem_filter.mp hi').1
  unfold Interference.wait
  split
  · exact hspares
  · exact hspares

/-! ### Edits as edits of the map -/

/-- The values of a record with those of an entity written over them. -/
lemma get?_merged (e : Entity) (as : Attributes) (name : String) :
    (merged e as).get? name = if name = primaryAttribute e.logicalName then as.get? name
      else (e.get? name).or (as.get? name) := by
  have hdistinct : (e.attributes.entries.filter fun entry =>
      entry.1 != primaryAttribute e.logicalName).Pairwise fun a b => a.1 ≠ b.1 :=
    (e.attributes.sorted.filter _).imp fun h => String.ne_of_lt h
  rw [merged, Attributes.get?_setAll as name hdistinct,
    lookup_filter fun n : String => n != primaryAttribute e.logicalName]
  by_cases h : name = primaryAttribute e.logicalName
  · simp [h]
  · simp [h, Entity.get?, Attributes.get?]

/-- A record that is added is put into the map. -/
lemma toMap_add (hnone : s.find? e.logicalName id = none) :
    (s.add e id).toMap = { s.toMap with
      rows := s.toMap.rows.put e.logicalName id (some (.ofEntity e id (s.lastVersion + 1)))
      lastVersion := s.lastVersion + 1 } := by
  refine MapStore.ext (funext fun name => funext fun key => ?_) rfl rfl rfl
  have hrow : StoredRecord.row ⟨e.logicalName, id, s.lastVersion + 1,
      e.attributes.set (primaryAttribute e.logicalName) (.uuid id)⟩ =
      .ofEntity e id (s.lastVersion + 1) :=
    congrArg (Row.mk _) (funext fun n => Attributes.get?_set _ _ n _)
  simp only [toMap, RecordMap.put, find?_add]
  by_cases h : name = e.logicalName ∧ key = id
  · obtain ⟨rfl, rfl⟩ := h
    simp [hnone, hrow]
  · have h' : ¬(e.logicalName = name ∧ id = key) := fun h' => h ⟨h'.1.symm, h'.2.symm⟩
    simp [h, h']

/-- A record that is written is changed in the map. -/
lemma toMap_write (s : Store) (logicalName : String) (id : Uuid) {f : Attributes → Attributes}
    {g : Row → Nat → Row} (hf : ∀ (r : StoredRecord) (version : Nat),
      StoredRecord.row { r with version, attributes := f r.attributes } = g r.row version) :
    (s.write logicalName id f).toMap = { s.toMap with
      rows := s.toMap.rows.put logicalName id
        ((s.toMap.rows logicalName id).map (g · (s.lastVersion + 1)))
      lastVersion := s.lastVersion + 1 } := by
  refine MapStore.ext (funext fun name => funext fun key => ?_) rfl rfl rfl
  simp only [toMap, RecordMap.put, find?_write]
  split
  · cases s.find? logicalName id with
    | none => rfl
    | some r => exact congrArg some (hf r _)
  · rfl

/-- A record that is erased is taken out of the map. -/
lemma toMap_erase :
    (s.erase logicalName id).toMap =
      { s.toMap with rows := s.toMap.rows.put logicalName id none } := by
  refine MapStore.ext (funext fun name => funext fun key => ?_) rfl rfl rfl
  simp only [toMap, RecordMap.put, find?_erase]
  split <;> rfl

/-- Another writer does the same to a store and to its map. -/
lemma toMap_interfere (i : Interference) : (s.interfere i).toMap = s.toMap.interfere i := by
  unfold Store.interfere MapStore.interfere
  cases i.action with
  | write name value =>
    exact toMap_write s _ _ fun r version =>
      congrArg (Row.mk version) (funext fun n => Attributes.get?_set r.attributes name n value)
  | delete => exact toMap_erase

/-- Other writers change the map as they change the store. -/
lemma toMap_foldl_interfere (due : List Interference) :
    (due.foldl interfere s).toMap = due.foldl MapStore.interfere s.toMap := by
  induction due generalizing s with
  | nil => rfl
  | cons i due ih => rw [List.foldl_cons, List.foldl_cons, ih, toMap_interfere]

/-- The start of a call does to the map what it does to the store. -/
lemma toMap_enter (kind : CallKind) : (s.enter kind).toMap = s.toMap.enter kind :=
  toMap_foldl_interfere _

/-! ### Calls -/

/-- An entity that is read shows the columns of the row. -/
lemma view_toEntity (r : StoredRecord) (columns : ColumnSet) :
    (r.toEntity columns).view = r.row.view r.logicalName r.id columns := by
  refine congrArg (EntityView.mk _ _ _) (funext fun name => ?_)
  rw [StoredRecord.toEntity, Entity.get?, Attributes.get?_restrict]
  by_cases h : name = primaryAttribute r.logicalName <;> simp [StoredRecord.row, h]

section Steps

variable (hs : s.Consistent)

include hs

/-- A creation does the same to a consistent store and to its map. -/
lemma perform_create (e : Entity) (fresh : Uuid) :
    (s.create e fresh).1.Consistent ∧ s.toMap.perform (.create e fresh) =
      ((s.create e fresh).1.toMap, .created (s.create e fresh).2) := by
  have henter := hs.enter .create
  simp only [create, MapStore.perform, ← toMap_enter]
  cases hreject : (s.enter .create).rejectWrites with
  | true => simp [hreject, henter]
  | false =>
    cases hfind : (s.enter .create).find? e.logicalName (e.id.getD fresh) with
    | some r => simp [hreject, hfind, henter]
    | none => simp [hreject, hfind, henter.add hfind, toMap_add hfind]

/-- A reading does the same to a consistent store and to its map. -/
lemma perform_retrieve (logicalName : String) (id : Uuid) (columns : ColumnSet) :
    (s.retrieve logicalName id columns).1.Consistent ∧
      s.toMap.perform (.retrieve logicalName id columns) =
        ((s.retrieve logicalName id columns).1.toMap,
          .read ((s.retrieve logicalName id columns).2.map (Option.map Entity.view))) := by
  refine ⟨hs.enter .retrieve, ?_⟩
  simp only [retrieve, MapStore.perform, ← toMap_enter]
  cases hfind : (s.enter .retrieve).find? logicalName id with
  | none => simp [hfind, Except.map]
  | some r =>
    obtain ⟨rfl, rfl⟩ := isAt_of_find? hfind
    simp [hfind, Except.map, view_toEntity]

/-- An update does the same to a consistent store and to its map. -/
lemma perform_update (e : Entity) :
    (s.update e).1.Consistent ∧
      s.toMap.perform (.update e) = ((s.update e).1.toMap, .updated (s.update e).2) := by
  have henter := hs.enter .update
  have hwrite (id : Uuid) : ((s.enter .update).write e.logicalName id (merged e)).Consistent :=
    henter.write fun as => by rw [get?_merged, if_pos rfl]
  have hmap (id : Uuid) := toMap_write (s.enter .update) e.logicalName id (f := merged e)
    (g := fun row version => row.update e version) fun r version =>
      congrArg (Row.mk version) (funext fun n => get?_merged e r.attributes n)
  simp only [update, MapStore.perform, ← toMap_enter]
  cases hreject : (s.enter .update).rejectWrites with
  | true => simp [hreject, henter]
  | false =>
    cases hid : e.id with
    | none => simp [hreject, henter]
    | some id =>
      cases hfind : (s.enter .update).find? e.logicalName id with
      | none => simp [hreject, hfind, henter]
      | some r =>
        cases hversion : e.rowVersion.any fun expected => expected != versionToken r.version with
        | true => simp_all [StoredRecord.row]
        | false => simp_all [StoredRecord.row]

/-- A deletion does the same to a consistent store and to its map. -/
lemma perform_delete (logicalName : String) (id : Uuid) :
    (s.delete logicalName id).1.Consistent ∧ s.toMap.perform (.delete logicalName id) =
      ((s.delete logicalName id).1.toMap, .deleted (s.delete logicalName id).2) := by
  have henter := hs.enter .delete
  simp only [delete, MapStore.perform, ← toMap_enter]
  cases hreject : (s.enter .delete).rejectWrites with
  | true => simp [hreject, henter]
  | false => simp [hreject, henter.erase, toMap_erase]

/-- Every step does the same to a consistent store and to its map. -/
theorem perform_toMap {step : StoreStep} (hstep : step.SparesId) :
    (s.perform step).1.Consistent ∧
      s.toMap.perform step = ((s.perform step).1.toMap, (s.perform step).2) := by
  cases step with
  | create e fresh => exact perform_create hs e fresh
  | retrieve logicalName id columns => exact perform_retrieve hs logicalName id columns
  | retrieveMultiple q =>
    exact ⟨hs.enter .retrieveMultiple, Prod.ext (toMap_enter .retrieveMultiple).symm rfl⟩
  | update e => exact perform_update hs e
  | delete logicalName id => exact perform_delete hs logicalName id
  | setRejectWrites reject => exact ⟨⟨hs.distinct, hs.holdsId, hs.sparesId⟩, rfl⟩
  | interleave i =>
    refine ⟨⟨hs.distinct, hs.holdsId, fun j hj => ?_⟩, rfl⟩
    rcases List.mem_append.mp hj with hj | hj
    · exact hs.sparesId j hj
    · exact List.mem_singleton.mp hj ▸ hstep

/-- The entries of the map of a consistent store are its records. -/
theorem toMap_eq_some_iff {name : String} {key : Uuid} {row : Row} :
    s.toMap.rows name key = some row ↔
      ∃ r ∈ s.records, r.logicalName = name ∧ r.id = key ∧ r.row = row := by
  rw [toMap_rows, Option.map_eq_some_iff]
  constructor
  · rintro ⟨r, hr, hrow⟩
    obtain ⟨hname, hid⟩ := isAt_of_find? hr
    exact ⟨r, List.mem_of_find?_eq_some hr, hname, hid, hrow⟩
  · rintro ⟨r, hr, rfl, rfl, hrow⟩
    exact ⟨r, hs.find?_of_mem hr, hrow⟩

end Steps

/-- **A store refines a map of records.**  From a consistent store on, after any steps, with
writing disabled and enabled at any time and with other writers that spare the identifiers, the
store is consistent, all answers have been those of the map under the same steps, and the entries
of the map are the records of the store. -/
theorem performAll_refines {s : Store} (hs : s.Consistent) {steps : List StoreStep}
    (hsteps : ∀ step ∈ steps, step.SparesId) :
    (s.performAll steps).1.Consistent ∧
      s.toMap.performAll steps = ((s.performAll steps).1.toMap, (s.performAll steps).2) ∧
      ∀ name key row, (s.toMap.performAll steps).1.rows name key = some row ↔
        ∃ r ∈ (s.performAll steps).1.records,
          r.logicalName = name ∧ r.id = key ∧ r.row = row := by
  induction steps generalizing s with
  | nil => exact ⟨hs, rfl, fun _ _ _ => toMap_eq_some_iff hs⟩
  | cons step steps ih =>
    obtain ⟨hstep, hsteps⟩ := List.forall_mem_cons.mp hsteps
    obtain ⟨hconsistent, hperform⟩ := perform_toMap hs hstep
    obtain ⟨hfinal, hall, -⟩ := ih hconsistent hsteps
    have hmap : s.toMap.performAll (step :: steps) =
        ((s.performAll (step :: steps)).1.toMap, (s.performAll (step :: steps)).2) := by
      simp only [MapStore.performAll, hperform, hall, performAll]
    refine ⟨hfinal, hmap, fun name key row => ?_⟩
    rw [hmap]
    exact toMap_eq_some_iff hfinal

/-- A store with one record. -/
def single : Store :=
  empty.add (.named "account") .nil

/-- The record is read, changed by another writer right before its update, and deleted. -/
def trial : List StoreStep :=
  [.interleave ⟨.update, 0, "account", .nil, .write "name" (.string "Acme")⟩,
    .retrieve "account" .nil .all, .update ⟨"account", some .nil, some "1", .empty⟩,
    .delete "account" .nil]

/-- The steps on the store with one record have the answers that the map gives. -/
theorem answers_trial : (single.performAll trial).1.Consistent ∧
    (single.toMap.performAll trial).2 = (single.performAll trial).2 := by
  have hs : single.Consistent :=
    ⟨by decide +kernel, by decide +kernel, fun _ h => absurd h List.not_mem_nil⟩
  have hsteps : ∀ step ∈ trial, step.SparesId := by
    simp [trial, StoreStep.SparesId, Interference.SparesId, primaryAttribute]
  obtain ⟨hconsistent, hmap, -⟩ := performAll_refines hs hsteps
  exact ⟨hconsistent, congrArg Prod.snd hmap⟩

end Store

end RecordGateway
