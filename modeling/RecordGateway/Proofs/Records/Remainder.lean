import RecordGateway.Proofs.Data.RoundTrip
import RecordGateway.Proofs.Records.Projection
import RecordGateway.Proofs.Records.Unshared
import RecordGateway.Proofs.Store.Refinement

/-!
# What a partial update does to the rest

A partial update reads a record into a data object, changes some of its fields, and writes the whole
data object back.  The other fields are written as well, with what has been read into them.  So an
attribute that no stored field stands for is as it was, and so is one whose value its field can
hold.  Any other value does not come through the data object: the attribute is left null, or
with the empty text where the field has to have one.
-/

namespace RecordGateway

/-! ### Types of fields -/

/-- What a field of a data object can hold. -/
inductive FieldType where
  | text
  /-- A text, or null. -/
  | optionalText
  /-- An integer, or null. -/
  | optionalInteger
deriving DecidableEq

namespace FieldType

/-- Whether a field of the type can hold a value. -/
def holds : FieldType → Value → Bool
  | text, .string _ => true
  | optionalText, .string _ => true
  | optionalText, .null => true
  | optionalInteger, .int _ => true
  | optionalInteger, .null => true
  | _, _ => false

/-- The value of a field into which nothing could be read. -/
def blank : FieldType → Value
  | text => .string ""
  | optionalText => .null
  | optionalInteger => .null

/-- The value of an attribute after it has been read into a field of the type. -/
def read (t : FieldType) (stored : Option Value) : Value :=
  match t with
  | text => .string ((stored.bind Value.asString?).getD "")
  | optionalText => .ofOption .string (stored.bind Value.asString?)
  | optionalInteger => .ofOption .int (stored.bind Value.asInt?)

variable {t : FieldType} {v : Value} {stored : Option Value}

/-- What a field can hold is read into it. -/
lemma read_of_holds (h : t.holds v = true) : t.read (some v) = v := by
  cases t with
  | text =>
    cases v with
    | string s => rfl
    | _ => cases h
  | optionalText =>
    cases v with
    | string s => rfl
    | null => rfl
    | _ => cases h
  | optionalInteger =>
    cases v with
    | int i => rfl
    | null => rfl
    | _ => cases h

/-- What a field cannot hold leaves it blank, and so does a missing attribute. -/
lemma read_of_not_holds (h : ∀ v, stored = some v → t.holds v = false) :
    t.read stored = t.blank := by
  cases stored with
  | none => cases t <;> rfl
  | some v =>
    have hv : t.holds v = false := h v rfl
    cases t with
    | text | optionalText =>
      cases v with
      | string s => cases hv
      | _ => rfl
    | optionalInteger =>
      cases v with
      | int i => cases hv
      | _ => rfl

end FieldType

/-- The type of a field of a company that is stored. -/
def Account.fieldType? : String → Option FieldType
  | "name" => some .text
  | "phone" => some .optionalText
  | "employees" => some .optionalInteger
  | "city" => some .optionalText
  | _ => none

/-- The type of a field of a person that is stored. -/
def Contact.fieldType? : String → Option FieldType
  | "name" => some .text
  | "city" => some .optionalText
  | "age" => some .optionalInteger
  | "email" => some .optionalText
  | "phone" => some .optionalText
  | _ => none

/-- Whether a partial update has a field. -/
def Account.Patch.sets (p : Account.Patch) : String → Bool
  | "name" => p.name.isSome
  | "phone" => p.phone.isSome
  | "employees" => p.employees.isSome
  | "city" => p.city.isSome
  | _ => false

/-- Whether a partial update has a field. -/
def Contact.Patch.sets (p : Contact.Patch) : String → Bool
  | "name" => p.name.isSome
  | "city" => p.city.isSome
  | "age" => p.age.isSome
  | "email" => p.email.isSome
  | "phone" => p.phone.isSome
  | _ => false

namespace RecordKind

/-- The type of a field that is stored. -/
def fieldType? : RecordKind → String → Option FieldType
  | account => Account.fieldType?
  | contact => Contact.fieldType?

/-- Whether a partial update has a field. -/
def sets : (k : RecordKind) → k.Patch → String → Bool
  | account => Account.Patch.sets
  | contact => Contact.Patch.sets

variable {k : RecordKind} {d : k.Data} {e : Entity} {field name : String} {t : FieldType}

/-- A field has the value that was read into it. -/
lemma value?_of_toData (h : k.mapper.toData e = .ok d) (ht : k.fieldType? field = some t)
    (hname : k.mapper.attributeOf? field = some name) :
    k.value? d field = some (t.read (e.get? name)) := by
  cases k with
  | account =>
    change Account.ofEntity e = .ok d at h
    change Account.attributeOf? field = some name at hname
    change Account.fieldType? field = some t at ht
    unfold Account.ofEntity at h
    split at h
    · cases h
    · cases h
    · rename_i stored _ hstored
      cases h
      unfold Account.fieldType? at ht
      split at ht <;> cases ht <;> cases hname
      · exact congrArg (fun name => some (Value.string (Option.getD name ""))) hstored.symm
      all_goals rfl
  | contact =>
    cases h
    change Contact.attributeOf? field = some name at hname
    change Contact.fieldType? field = some t at ht
    unfold Contact.fieldType? at ht
    split at ht <;> cases ht <;> cases hname <;> rfl

/-- The entity of a data object has the values of its fields. -/
lemma get?_of_toEntity (h : k.mapper.toEntity d = .ok e) (ht : k.fieldType? field = some t)
    (hname : k.mapper.attributeOf? field = some name) : e.get? name = k.value? d field := by
  cases k with
  | account =>
    change Account.toEntity d = .ok e at h
    change Account.attributeOf? field = some name at hname
    change Account.fieldType? field = some t at ht
    unfold Account.toEntity at h
    split at h
    · cases h
    · cases h
      unfold Account.fieldType? at ht
      split at ht <;> cases ht <;> cases hname <;> rfl
  | contact =>
    cases h
    change Contact.attributeOf? field = some name at hname
    change Contact.fieldType? field = some t at ht
    unfold Contact.fieldType? at ht
    split at ht <;> cases ht <;> cases hname <;> rfl

/-- The entity of a data object has no other attributes than those of stored fields. -/
lemma exists_field_of_get? (h : k.mapper.toEntity d = .ok e) {value : Value}
    (hvalue : e.get? name = some value) :
    ∃ field t, k.mapper.attributeOf? field = some name ∧ k.fieldType? field = some t := by
  cases k with
  | account =>
    change Account.toEntity d = .ok e at h
    unfold Account.toEntity at h
    split at h
    · cases h
    · cases h
      simp only [Entity.get?, Entity.set, Attributes.get?_set] at hvalue
      split_ifs at hvalue with hcity hemployees hphone hname
      · exact ⟨"city", _, congrArg some hcity.symm, rfl⟩
      · exact ⟨"employees", _, congrArg some hemployees.symm, rfl⟩
      · exact ⟨"phone", _, congrArg some hphone.symm, rfl⟩
      · exact ⟨"name", _, congrArg some hname.symm, rfl⟩
      · cases hvalue
  | contact =>
    cases h
    simp only [Contact.toEntity, Entity.get?, Entity.set, Attributes.get?_set] at hvalue
    split_ifs at hvalue with hphone hemail hage hcity hname
    · exact ⟨"phone", _, congrArg some hphone.symm, rfl⟩
    · exact ⟨"email", _, congrArg some hemail.symm, rfl⟩
    · exact ⟨"age", _, congrArg some hage.symm, rfl⟩
    · exact ⟨"city", _, congrArg some hcity.symm, rfl⟩
    · exact ⟨"name", _, congrArg some hname.symm, rfl⟩
    · cases hvalue

/-- A field that a partial update does not have keeps its value. -/
lemma value?_applyPatch {update : k.Patch} (ht : k.fieldType? field = some t)
    (hsets : k.sets update field = false) :
    k.value? (DataObject.applyPatch d update) field = k.value? d field := by
  cases k with
  | account =>
    change Account.fieldType? field = some t at ht
    change Account.Patch.sets update field = false at hsets
    unfold Account.fieldType? at ht
    split at ht <;> cases ht
    all_goals
      simp only [Account.Patch.sets, Option.isSome_eq_false_iff, Option.isNone_iff_eq_none] at hsets
      simp [value?, Account.value?, DataObject.applyPatch, Account.applyPatch, FieldUpdate.apply,
        hsets]
  | contact =>
    change Contact.fieldType? field = some t at ht
    change Contact.Patch.sets update field = false at hsets
    unfold Contact.fieldType? at ht
    split at ht <;> cases ht
    all_goals
      simp only [Contact.Patch.sets, Option.isSome_eq_false_iff, Option.isNone_iff_eq_none] at hsets
      simp [value?, Contact.value?, DataObject.applyPatch, Contact.applyPatch, FieldUpdate.apply,
        hsets]

/-! ### Attributes that a partial update spares -/

/-- Whether no field that a partial update has stands for an attribute. -/
def Spares (k : RecordKind) (update : k.Patch) (name : String) : Prop :=
  ∀ field, k.sets update field = true → k.mapper.attributeOf? field ≠ some name

/-- Whether the attributes that a partial update spares are as they were before it, but for missing
ones that have become null. -/
def KeepsSpared (k : RecordKind) (update : k.Patch) (before after : Attributes) : Prop :=
  ∀ name, k.Spares update name → after.get? name = before.get? name ∨
    (before.get? name = none ∧ after.get? name = some .null)

/-- What a partial update leaves of the attributes that it spares. -/
structure LeavesSpared (k : RecordKind) (update : k.Patch) (before after : Attributes) : Prop where
  /-- An attribute that no stored field stands for is as it was. -/
  unmapped : ∀ name,
    (∀ field, k.mapper.attributeOf? field = some name → k.fieldType? field = none) →
    after.get? name = before.get? name
  /-- An attribute with a value that its field can hold is as it was. -/
  held : ∀ field t name value, k.mapper.attributeOf? field = some name →
    k.fieldType? field = some t → k.Spares update name → before.get? name = some value →
    t.holds value = true → after.get? name = some value
  /-- Any other attribute of a stored field is blank, also if it was missing. -/
  blanked : ∀ field t name, k.mapper.attributeOf? field = some name →
    k.fieldType? field = some t → k.Spares update name →
    (∀ value, before.get? name = some value → t.holds value = false) →
    after.get? name = some t.blank

variable {k : RecordKind}

/-- The entity of a data object that was read from a record and changed leaves what the change
spares. -/
lemma leavesSpared_merged {current : k.Data} {update : k.Patch} {r : StoredRecord}
    {entity : Entity} (hread : k.mapper.toData (r.toEntity .all) = .ok current)
    (hentity : k.mapper.toEntity (DataObject.applyPatch current update) = .ok entity)
    (id : Option Uuid) (version : Option String) :
    k.LeavesSpared update r.attributes
      (Store.merged { entity with id, rowVersion := version } r.attributes) := by
  generalize hleft : Store.merged { entity with id, rowVersion := version } r.attributes = left
  have hget (name : String) : left.get? name =
      if name = primaryAttribute entity.logicalName then r.attributes.get? name
      else (entity.get? name).or (r.attributes.get? name) :=
    hleft ▸ Store.get?_merged _ r.attributes name
  -- a field that is spared is written with what has been read into it
  have hspared (field : String) (t : FieldType) (name : String)
      (hfield : k.mapper.attributeOf? field = some name) (ht : k.fieldType? field = some t)
      (hspares : k.Spares update name) :
      left.get? name = some (t.read (r.attributes.get? name)) := by
    have hsets : k.sets update field = false :=
      Bool.eq_false_iff.mpr fun hsets => hspares field hsets hfield
    have hwritten : entity.get? name = some (t.read (r.attributes.get? name)) := by
      rw [get?_of_toEntity hentity ht hfield, value?_applyPatch ht hsets,
        value?_of_toData hread ht hfield, r.get?_toEntity_all]
    rw [hget, if_neg (ne_primaryAttribute_of_get? hentity hwritten), hwritten, Option.some_or]
  refine ⟨fun name hunmapped => ?_, fun field t name value hfield ht hspares hvalue hholds => ?_,
    fun field t name hfield ht hspares hholds => ?_⟩
  · have hnone : entity.get? name = none := by
      by_contra hne
      obtain ⟨value, hvalue⟩ := Option.ne_none_iff_exists'.mp hne
      obtain ⟨field, t, hfield, ht⟩ := exists_field_of_get? hentity hvalue
      cases (hunmapped field hfield).symm.trans ht
    rw [hget, hnone, Option.none_or, ite_self]
  · rw [hspared field t name hfield ht hspares, hvalue, FieldType.read_of_holds hholds]
  · rw [hspared field t name hfield ht hspares, FieldType.read_of_not_holds hholds]

end RecordKind

/-! ### Partial updates of stored records -/

namespace Manager

/-- Whether of two stores the second one has the records of the first one, but for the record that
is named, which has the next version and attributes that are related as given. -/
def RewritesOne {D : Type} (m : Manager D) (idText : String) (s s' : Store)
    (related : Attributes → Attributes → Prop) : Prop :=
  ∃ id front r back attributes, idOfText? idText = some id ∧
    r.isAt m.logicalName id = true ∧ s.records = front ++ r :: back ∧
    s'.records = front ++ { r with version := s.lastVersion + 1, attributes } :: back ∧
    related r.attributes attributes

/-- **What a partial update leaves of the rest.**  Let a partial update return a record, and let no
other writer act while it runs.  Then it has written the record that is named and no other one.  Of
the attributes that it spares, those that no stored field stands for are as they were, and so are
those with a value that their field can hold; all others are blank. -/
theorem rewritesOne_patch {S : Type} [TokenSource S] {k : RecordKind} {m : Manager k.Data}
    (hm : m.mapper = k.mapper) {idText : String} {update : k.Patch} {scope : RequestScope}
    {b : Backend S} {d : k.Data}
    (hresult : ((m.patch idText update).outcome scope b).2.1 = .ok (some d))
    (hfired : (m.patch idText update).fired scope b = []) :
    m.RewritesOne idText b.store ((m.patch idText update).outcome scope b).1.store
      (k.LeavesSpared update) := by
  obtain ⟨b', result, scope', houtcome⟩ :
      ∃ b' result scope', (m.patch idText update).outcome scope b = (b', result, scope') :=
    ⟨_, _, _, rfl⟩
  rw [houtcome] at hresult ⊢
  obtain rfl : result = .ok (some d) := hresult
  obtain ⟨id, current, r, version, _, hreading, hreplacement, hr, hleft⟩ :=
    ensures_patch idText update scope b rfl hfired b' (some d) scope' houtcome d rfl
  obtain ⟨hid, -, mapped, hmapped, rfl⟩ := exists_of_replacement hreplacement
  obtain ⟨r', hr', hread⟩ := reading_eq_some.mp hreading
  obtain rfl : r = r' := Option.some.inj (hr.symm.trans hr')
  rw [hm] at hread
  have hspared := RecordKind.leavesSpared_merged hread (hm ▸ toEntity_of_entityOf hmapped)
    (some id) (some version)
  rcases b.store.bare.records_write_cases m.logicalName id (Store.merged
      { mapped with id := some id, rowVersion := some version }) with
    ⟨hnone, -⟩ | ⟨front, r', back, hfind, hrecords, -, hwritten⟩
  · cases hnone.symm.trans hr
  · obtain rfl : r = r' := Option.some.inj (hr.symm.trans hfind)
    refine ⟨id, front, r, back, _, hid, ?_, hrecords, ?_, hspared⟩
    · exact StoredRecord.isAt_iff.mpr (Store.isAt_of_find? hr)
    · exact (congrArg Store.records hleft).trans hwritten

end Manager

/-! ### A telephone number that is no text -/

namespace NumberAsPhone

/-- A store with one company, whose telephone number is an integer, and which has an attribute that
is not mapped. -/
def backend : Backend CountedTokens where
  store := (Store.empty.seed {
    logicalName := Account.logicalName
    id := some (.ofNat 1)
    rowVersion := none
    attributes := .ofList [("name", .string "Acme"), ("telephone1", .int 5),
      ("numberofemployees", .int 40), ("new_colour", .string "red")] } .nil).1
  faults := []
  tokens := .ofToken "token"

/-- The company gets a city. -/
def move : Account.Patch :=
  ⟨none, none, none, none, some (some "Oslo")⟩

/-- The company with its city, and without a telephone number. -/
def moved : Account :=
  ⟨some (Uuid.ofNat 1).toText, some (versionToken 2), "Acme", none, some 40, some "Oslo"⟩

/-- The partial update that gives the company its city. -/
def operation : Operation (Option Account) :=
  Account.manager.patch "00000000-0000-0000-0000-000000000001" move

/-- The store after the partial update. -/
def final : Store :=
  (operation.outcome (.ofCaller .anonymous) backend).1.store

/-- The company is returned with its city. -/
lemma result_operation :
    (operation.outcome (.ofCaller .anonymous) backend).2.1 = .ok (some moved) := by
  decide +kernel

/-- No other writer acts meanwhile. -/
lemma fired_operation : operation.fired (.ofCaller .anonymous) backend = [] := by
  decide +kernel

/-- The company is written, and what the partial update spares is left as its fields can hold it. -/
theorem rewritesOne_move :
    (operation.outcome (.ofCaller .anonymous) backend).2.1 = .ok (some moved) ∧
      operation.fired (.ofCaller .anonymous) backend = [] ∧
      Account.manager.RewritesOne "00000000-0000-0000-0000-000000000001" backend.store final
        (RecordKind.account.LeavesSpared move) :=
  ⟨result_operation, fired_operation, Manager.rewritesOne_patch (k := .account)
    (m := Account.manager) rfl result_operation fired_operation⟩

/-- The telephone number of a record. -/
def phone? (r : StoredRecord) : Option Value :=
  r.attributes.get? "telephone1"

/-- The partial update of the city spares the telephone number, but does not keep it. -/
theorem not_keepsSpared_move :
    (operation.outcome (.ofCaller .anonymous) backend).2.1 = .ok (some moved) ∧
      operation.fired (.ofCaller .anonymous) backend = [] ∧
      ¬Account.manager.RewritesOne "00000000-0000-0000-0000-000000000001" backend.store final
        (RecordKind.account.KeepsSpared move) := by
  refine ⟨result_operation, fired_operation, ?_⟩
  rintro ⟨id, front, r, back, attributes, -, -, hbefore, hafter, hkeeps⟩
  have hold : backend.store.records.map phone? = [some (.int 5)] := by decide +kernel
  have hnew : final.records.map phone? = [some .null] := by decide +kernel
  rw [hbefore, List.map_append, List.append_eq_singleton_iff] at hold
  rw [hafter, List.map_append, List.append_eq_singleton_iff] at hnew
  have hspares : RecordKind.account.Spares move "telephone1" := by
    intro field hsets hfield
    change Account.Patch.sets move field = true at hsets
    unfold Account.Patch.sets at hsets
    split at hsets
    case h_4 => exact absurd hfield (by decide)
    all_goals cases hsets
  rcases hold with ⟨-, hold⟩ | ⟨-, hold⟩
  · rcases hnew with ⟨-, hnew⟩ | ⟨-, hnew⟩
    · have hphone : r.attributes.get? "telephone1" = some (.int 5) := (List.cons.inj hold).1
      have hphone' : attributes.get? "telephone1" = some .null := (List.cons.inj hnew).1
      have hkept := hkeeps "telephone1" hspares
      simp [hphone, hphone'] at hkept
    · cases hnew
  · cases hold

end NumberAsPhone

end RecordGateway
