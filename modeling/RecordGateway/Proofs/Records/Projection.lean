import RecordGateway.Credential.Counted
import RecordGateway.Data.Kind
import RecordGateway.Proofs.Attributes
import RecordGateway.Proofs.Compilation.Success
import RecordGateway.Proofs.Records.Contracts
import RecordGateway.Proofs.Script.Outcomes

/-!
# Projections

A query that selects some fields reads the same rows as one that selects all, and each row shows the
attributes behind those fields as they are stored.  So the data objects agree on the selected
fields, provided that they can be made at all: a company cannot be read without its name.
-/

namespace RecordGateway

/-! ### Fields of data objects -/

/-- The value of a field of a company. -/
def Account.value? (a : Account) : String → Option Value
  | "id" => some (.ofOption .string a.id)
  | "name" => some (.string a.name)
  | "phone" => some (.ofOption .string a.phone)
  | "employees" => some (.ofOption .int a.employees)
  | "city" => some (.ofOption .string a.city)
  | _ => none

/-- The value of a field of a person. -/
def Contact.value? (c : Contact) : String → Option Value
  | "id" => some (.ofOption .string c.id)
  | "name" => some (.string c.name)
  | "city" => some (.ofOption .string c.city)
  | "age" => some (.ofOption .int c.age)
  | "email" => some (.ofOption .string c.email)
  | "phone" => some (.ofOption .string c.phone)
  | _ => none

namespace RecordKind

/-- The value of a field of a data object. -/
def value? : (k : RecordKind) → k.Data → String → Option Value
  | account => Account.value?
  | contact => Contact.value?

/-- The fields without which a record has no data object. -/
def requiredFields : RecordKind → List String
  | account => ["name"]
  | contact => []

/-- Whether two data objects have the same identifier and version, and the same values in some
fields. -/
def AgreeOn (k : RecordKind) (fields : List String) (d d' : k.Data) : Prop :=
  DataObject.id d = DataObject.id d' ∧ DataObject.version d = DataObject.version d' ∧
    ∀ field ∈ fields, k.value? d field = k.value? d' field

/-- Whether an entity shows what another one shows of the attributes behind some fields. -/
structure Shows (k : RecordKind) (fields : List String) (e e' : Entity) : Prop where
  id_eq : e'.id = e.id
  rowVersion_eq : e'.rowVersion = e.rowVersion
  get?_eq : ∀ field ∈ fields, ∀ name, k.mapper.attributeOf? field = some name →
    e'.get? name = e.get? name

namespace Shows

variable {fields : List String} {e e' : Entity}

/-- A person that is shown in part agrees with the whole one. -/
lemma agreeOn_contact (h : contact.Shows fields e e') :
    contact.AgreeOn fields (Contact.ofEntity e') (Contact.ofEntity e) := by
  have hstring (field name : String) (hfield : field ∈ fields)
      (hname : Contact.attributeOf? field = some name) : e'.getString? name = e.getString? name :=
    congrArg (·.bind Value.asString?) (h.get?_eq field hfield name hname)
  refine ⟨congrArg (·.map Uuid.toText) h.id_eq, h.rowVersion_eq, fun field hfield => ?_⟩
  change (Contact.ofEntity e').value? field = (Contact.ofEntity e).value? field
  unfold Contact.value? Contact.ofEntity
  split
  · rw [h.id_eq]
  · rw [hstring _ _ hfield rfl]
  · rw [hstring _ _ hfield rfl]
  · rw [h.get?_eq _ hfield _ rfl]
  · rw [hstring _ _ hfield rfl]
  · rw [hstring _ _ hfield rfl]
  · rfl

/-- A company that is shown with its name agrees with the whole one. -/
lemma exists_account {d : Account} (h : account.Shows fields e e') (hname : "name" ∈ fields)
    (hd : Account.ofEntity e = .ok d) :
    ∃ d', Account.ofEntity e' = .ok d' ∧ account.AgreeOn fields d' d := by
  have hstring (field name : String) (hfield : field ∈ fields)
      (hname : Account.attributeOf? field = some name) : e'.getString? name = e.getString? name :=
    congrArg (·.bind Value.asString?) (h.get?_eq field hfield name hname)
  unfold Account.ofEntity at hd ⊢
  rw [h.id_eq, hstring _ _ hname rfl]
  split at hd
  · cases hd
  · cases hd
  · obtain rfl := Except.ok.inj hd
    refine ⟨_, rfl, rfl, h.rowVersion_eq, fun field hfield => ?_⟩
    change Account.value? _ field = Account.value? _ field
    unfold Account.value?
    split
    · rfl
    · rfl
    · rw [hstring _ _ hfield rfl]
    · rw [h.get?_eq _ hfield _ rfl]
    · rw [hstring _ _ hfield rfl]
    · rfl

end Shows

/-- An entity that shows the required fields has a data object if the whole one has, and the two
data objects agree on the fields that it shows. -/
lemma exists_toData_of_shows {k : RecordKind} {fields : List String} {e e' : Entity} {d : k.Data}
    (hshows : k.Shows fields e e') (hrequired : k.requiredFields ⊆ fields)
    (h : k.mapper.toData e = .ok d) :
    ∃ d', k.mapper.toData e' = .ok d' ∧ k.AgreeOn fields d' d := by
  cases k with
  | account => exact hshows.exists_account (hrequired List.mem_cons_self) h
  | contact =>
    obtain rfl : Contact.ofEntity e = d := Except.ok.inj h
    exact ⟨Contact.ofEntity e', rfl, hshows.agreeOn_contact⟩

/-- There is an attribute behind every required field. -/
lemma exists_attributeOf?_of_required {k : RecordKind} {field : String}
    (hfield : field ∈ k.requiredFields) : ∃ name, k.mapper.attributeOf? field = some name := by
  cases k with
  | account =>
    obtain rfl := List.mem_singleton.mp hfield
    exact ⟨"name", rfl⟩
  | contact => cases hfield

/-- An entity without the attribute behind a required field has no data object, and the error names
the field. -/
lemma toData_of_get?_eq_none {k : RecordKind} {e : Entity} {field name : String}
    (hfield : field ∈ k.requiredFields) (hname : k.mapper.attributeOf? field = some name)
    (hid : e.id.isSome = true) (hnone : e.get? name = none) :
    k.mapper.toData e = .error (.missingField field) := by
  cases k with
  | account =>
    obtain rfl := List.mem_singleton.mp hfield
    obtain rfl : "name" = name := Option.some.inj hname
    obtain ⟨id, hid⟩ := Option.isSome_iff_exists.mp hid
    have hstring : e.getString? "name" = none := congrArg (·.bind Value.asString?) hnone
    change Account.ofEntity e = _
    unfold Account.ofEntity
    rw [hid, hstring]
  | contact => cases hfield

end RecordKind

/-! ### Rows under a projection -/

/-- The attribute of the identifier is not the one of a name. -/
lemma primaryAttribute_ne_name (logicalName : String) : primaryAttribute logicalName ≠ "name" := by
  intro h
  have hlast := congrArg (fun s : String => s.toList.getLast?) h
  simp [primaryAttribute] at hlast

/-- The attribute behind a required field is behind no other field, and does not hold the
identifier. -/
lemma RecordKind.unique_of_required {k : RecordKind} {field name : String}
    (hname : k.mapper.attributeOf? field = some name) (hfield : field ∈ k.requiredFields)
    (logicalName : String) : name ≠ primaryAttribute logicalName ∧
      ∀ field', k.mapper.attributeOf? field' = some name → field' = field := by
  cases k with
  | account =>
    obtain rfl := List.mem_singleton.mp hfield
    obtain rfl : "name" = name := Option.some.inj hname
    refine ⟨(primaryAttribute_ne_name logicalName).symm, fun field' hfield' => ?_⟩
    change Account.attributeOf? field' = some "name" at hfield'
    unfold Account.attributeOf? at hfield'
    split at hfield' <;> simp at hfield' ⊢
  | contact => cases hfield

namespace StoredRecord

variable {k : RecordKind} {r : StoredRecord} {fields names : List String}

/-- A row shows the attributes behind the selected fields as they are stored. -/
lemma shows_toEntity
    (hnames : List.Forall₂ (fun field name => k.mapper.attributeOf? field = some name)
      fields names) :
    k.Shows fields (r.toEntity .all) (r.toEntity (.only names.eraseDups)) where
  id_eq := rfl
  rowVersion_eq := rfl
  get?_eq field hfield name hname := by
    have hmem : name ∈ names.eraseDups :=
      List.mem_eraseDups.mpr ((mem_attributes_iff hnames).mpr ⟨field, hfield, hname⟩)
    unfold Entity.get? toEntity
    rw [Attributes.get?_restrict, Attributes.get?_restrict, if_pos, if_pos]
    · exact Bool.or_eq_true_iff.mpr (.inr rfl)
    · exact Bool.or_eq_true_iff.mpr (.inr (List.contains_iff_mem.mpr hmem))

/-- A row that hides the attribute behind a required field has no data object. -/
lemma toData_toEntity_of_not_mem
    (hnames : List.Forall₂ (fun field name => k.mapper.attributeOf? field = some name) fields names)
    {field : String} (hfield : field ∈ k.requiredFields) (hmissing : field ∉ fields) :
    k.mapper.toData (r.toEntity (.only names.eraseDups)) = .error (.missingField field) := by
  obtain ⟨name, hname⟩ := RecordKind.exists_attributeOf?_of_required hfield
  obtain ⟨hprimary, hunique⟩ := RecordKind.unique_of_required hname hfield r.logicalName
  have hunselected : name ∉ names.eraseDups := by
    intro hmem
    obtain ⟨field', hfield', hname'⟩ :=
      (mem_attributes_iff hnames).mp (List.mem_eraseDups.mp hmem)
    exact hmissing (hunique field' hname' ▸ hfield')
  have hhidden : ¬(name == primaryAttribute r.logicalName ||
      (ColumnSet.only names.eraseDups).includes name) = true := by
    intro hshown
    rcases Bool.or_eq_true_iff.mp hshown with heq | hmem
    · exact hprimary (beq_iff_eq.mp heq)
    · exact hunselected (List.contains_iff_mem.mp hmem)
  have hnone : (r.toEntity (.only names.eraseDups)).get? name = none := by
    unfold Entity.get? toEntity
    rw [Attributes.get?_restrict, if_neg hhidden]
  exact RecordKind.toData_of_get?_eq_none hfield hname rfl hnone

end StoredRecord

/-! ### Queries -/

/-- A query to the store is answered with its rows, unless a fault meets it. -/
lemma Backend.answer_retrieveMultiple_eq_ok {S : Type} [TokenSource S] {b : Backend S}
    {q : NativeQuery} {entities : List Entity} :
    (b.answer (.retrieveMultiple q)).2 = .ok entities ↔
      b.reaches (.call .retrieveMultiple) = true ∧
        entities = (b.store.enter .retrieveMultiple).select q := by
  have hanswer : (b.answer (.retrieveMultiple q)).2 =
      (b.call (.call .retrieveMultiple) fun s => s.retrieveMultiple q).2 := rfl
  rcases b.call_cases (.call .retrieveMultiple) fun s => s.retrieveMultiple q with
    ⟨hfault, ⟨e, he⟩, -⟩ | ⟨hreaches, hcall, -⟩
  · simp [hanswer, he, hfault]
  · rw [hanswer, hcall, and_iff_right hreaches]
    exact ⟨fun h => (Except.ok.inj h).symm, fun h => congrArg Except.ok h.symm⟩

namespace Manager

variable {D S : Type} [TokenSource S] {m : Manager D} {request : QueryRequest}
  {scope : RequestScope} {b : Backend S}

/-- A request that compiles is compiled without the outside. -/
lemma outcome_compile {native : NativeQuery}
    (hnative : request.compile m.mapper.toResolver m.maxPageSize m.logicalName = .ok native) :
    (Operation.ofExcept .query (request.compile m.mapper.toResolver m.maxPageSize
      m.logicalName)).outcome scope b = (b, .ok native, scope) := by
  rw [Operation.outcome_ofExcept, hnative]
  rfl

/-- A query that is answered with its rows results in their data objects, or in the error of the
first row that has none. -/
lemma outcome_query_of_reaches {native : NativeQuery} {b' : Backend S} {scope' : RequestScope}
    (hnative : request.compile m.mapper.toResolver m.maxPageSize m.logicalName = .ok native)
    (hsome : native.yieldsNothing = false)
    (hconnect : m.connect.outcome scope b = (b', .ok (), scope'))
    (hreaches : b'.reaches (.call .retrieveMultiple) = true) :
    ((m.query request).outcome scope b).2.1 =
      ((b'.store.enter .retrieveMultiple).select native).mapM m.dataOf := by
  have hselect : (Session.retrieveMultiple native).outcome scope' b' =
      ((b'.answer (.retrieveMultiple native)).1,
        .ok ((b'.store.enter .retrieveMultiple).select native), scope') := by
    have hanswer := Backend.answer_retrieveMultiple_eq_ok (q := native).mpr ⟨hreaches, rfl⟩
    unfold Session.retrieveMultiple
    rw [Operation.outcome_ofScript]
    exact Prod.ext rfl (Prod.ext (mapError_eq_ok.mpr hanswer) rfl)
  unfold query
  rw [Operation.outcome_bind_of_ok (outcome_compile hnative),
    if_neg (Bool.eq_false_iff.mp hsome), Operation.outcome_bind_of_ok hconnect,
    Operation.outcome_bind_of_ok hselect, Operation.ofResult, Operation.outcome_ofExcept]
  cases ((b'.store.enter .retrieveMultiple).select native).mapM m.dataOf <;> rfl

/-- When a query succeeds: it asks for no rows, or the rows that it is answered with all have data
objects. -/
lemma outcome_query_eq_ok {ds : List D} :
    ((m.query request).outcome scope b).2.1 = .ok ds ↔ ∃ native,
      request.compile m.mapper.toResolver m.maxPageSize m.logicalName = .ok native ∧
        ((native.yieldsNothing = true ∧ ds = []) ∨ (native.yieldsNothing = false ∧
          ∃ b' scope', m.connect.outcome scope b = (b', .ok (), scope') ∧
            b'.reaches (.call .retrieveMultiple) = true ∧
            ((b'.store.enter .retrieveMultiple).select native).mapM m.dataOf = .ok ds)) := by
  constructor
  · intro h
    have houtcome : (m.query request).outcome scope b = (_, .ok ds, _) :=
      Prod.ext rfl (Prod.ext h rfl)
    obtain ⟨b₀, native, scope₀, hcompile, hrest⟩ := Operation.outcome_bind_eq_ok.mp houtcome
    simp only [Operation.outcome_ofExcept, Prod.mk.injEq, mapError_eq_ok] at hcompile
    obtain ⟨rfl, hnative, rfl⟩ := hcompile
    refine ⟨native, hnative, ?_⟩
    by_cases hnothing : native.yieldsNothing = true
    · simp only [if_pos hnothing, Operation.outcome_pure, Prod.mk.injEq, Except.ok.injEq] at hrest
      exact .inl ⟨hnothing, hrest.2.1.symm⟩
    · rw [if_neg hnothing] at hrest
      obtain ⟨b', _, scope', hconnect, hrest⟩ := Operation.outcome_bind_eq_ok.mp hrest
      obtain ⟨_, entities, _, hselect, hdata⟩ := Operation.outcome_bind_eq_ok.mp hrest
      simp only [Session.retrieveMultiple, Operation.outcome_ofScript, Prod.mk.injEq,
        mapError_eq_ok] at hselect
      obtain ⟨hreaches, rfl⟩ := Backend.answer_retrieveMultiple_eq_ok.mp hselect.2.1
      simp only [Operation.ofResult, Operation.outcome_ofExcept, Prod.mk.injEq,
        mapError_eq_ok] at hdata
      exact .inr ⟨Bool.eq_false_iff.mpr hnothing, b', scope', hconnect, hreaches, hdata.2.1⟩
  · rintro ⟨native, hnative, ⟨hnothing, rfl⟩ | ⟨hsome, b', scope', hconnect, hreaches, hdata⟩⟩
    · unfold query
      rw [Operation.outcome_bind_of_ok (outcome_compile hnative), if_pos hnothing]
      rfl
    · rw [outcome_query_of_reaches hnative hsome hconnect hreaches]
      exact hdata

/-- The native query of a request under a projection is the one without it but for the columns. -/
lemma compile_select {r : Resolver} {maxPageSize : UInt32} {entityName : String}
    {fields names : List String} {native : NativeQuery} (hne : fields ≠ [])
    (hnames : List.Forall₂ (fun field name => r.attributeOf? field = some name) fields names)
    (h : QueryRequest.compile { request with select := none } r maxPageSize entityName =
      .ok native) :
    native.columns = .all ∧
      QueryRequest.compile { request with select := some fields } r maxPageSize entityName =
        .ok { native with columns := .only names.eraseDups } := by
  obtain ⟨hpage, hcriteria, hcolumns, horders, hname⟩ := QueryRequest.compile_eq_ok.mp h
  exact ⟨(Except.ok.inj hcolumns).symm, QueryRequest.compile_eq_ok.mpr
    ⟨hpage, hcriteria, columnsOf_eq_ok.mpr ⟨hne, names, hnames, rfl⟩, horders, hname⟩⟩

end Manager

/-! ### Projected queries -/

/-- Whether the projection of a query to some fields keeps its answer: if the query succeeds without
it, it succeeds with it, and returns in the same order data objects with the same identifiers, the
same versions and the same values in these fields. -/
def Manager.KeepsAnswer {S : Type} [TokenSource S] {k : RecordKind} (m : Manager k.Data)
    (request : QueryRequest) (fields : List String) (scope : RequestScope) (b : Backend S) : Prop :=
  ∀ ds, ((m.query { request with select := none }).outcome scope b).2.1 = .ok ds →
    ∃ ds', ((m.query { request with select := some fields }).outcome scope b).2.1 = .ok ds' ∧
      List.Forall₂ (k.AgreeOn fields) ds' ds

/-- Whether a query to some fields fails because a record that it finds cannot be read without a
field that is not one of them. -/
def Manager.MissesField {S : Type} [TokenSource S] {k : RecordKind} (m : Manager k.Data)
    (request : QueryRequest) (fields : List String) (scope : RequestScope) (b : Backend S) : Prop :=
  ∃ field ∈ k.requiredFields, field ∉ fields ∧
    ((m.query { request with select := some fields }).outcome scope b).2.1 =
      .error (.ofMappingOut (.missingField field))

section Projected

variable {S : Type} [TokenSource S] {k : RecordKind} {m : Manager k.Data} {request : QueryRequest}
  {fields names : List String} {scope : RequestScope} {b : Backend S} {ds : List k.Data}

/-- A query that succeeds returns the data objects of some rows, and under a projection it reads the
same rows, of which it shows less. -/
lemma exists_rows_of_query (hm : m.mapper = k.mapper) (hne : fields ≠ [])
    (hmapped : ∀ field ∈ fields, ∃ name, k.mapper.attributeOf? field = some name)
    (h : ((m.query { request with select := none }).outcome scope b).2.1 = .ok ds) :
    ∃ (names : List String) (rows : List StoredRecord),
      List.Forall₂ (fun field name => k.mapper.attributeOf? field = some name) fields names ∧
        (rows.map (·.toEntity .all)).mapM m.dataOf = .ok ds ∧
        ((m.query { request with select := some fields }).outcome scope b).2.1 =
          (rows.map (·.toEntity (.only names.eraseDups))).mapM m.dataOf := by
  obtain ⟨names, hnames⟩ : ∃ names,
      List.Forall₂ (fun field name => k.mapper.attributeOf? field = some name) fields names := by
    refine ⟨fields.map fun field => (k.mapper.attributeOf? field).getD "",
      List.forall₂_map_right_iff.mpr (List.forall₂_same.mpr fun field hfield => ?_)⟩
    obtain ⟨name, hname⟩ := hmapped field hfield
    rw [hname]
    rfl
  obtain ⟨native, hnative, hrows⟩ := Manager.outcome_query_eq_ok.mp h
  obtain ⟨hcolumns, hprojected⟩ := Manager.compile_select hne (hm ▸ hnames) hnative
  obtain ⟨hnothing, rfl⟩ | ⟨hsome, b', scope', hconnect, hreaches, hdata⟩ := hrows
  · refine ⟨names, [], hnames, rfl, ?_⟩
    exact Manager.outcome_query_eq_ok.mpr ⟨_, hprojected, .inl ⟨hnothing, rfl⟩⟩
  · unfold Store.select at hdata
    rw [hcolumns] at hdata
    exact ⟨names, _, hnames, hdata,
      Manager.outcome_query_of_reaches hprojected hsome hconnect hreaches⟩

/-- Rows that all have data objects have data objects under a projection, which agree with them, if
it selects the required fields or if there are no rows. -/
lemma exists_projected_rows (hm : m.mapper = k.mapper) {rows : List StoredRecord}
    (hnames : List.Forall₂ (fun field name => k.mapper.attributeOf? field = some name) fields names)
    (hrequired : k.requiredFields ⊆ fields ∨ ds = [])
    (h : (rows.map (·.toEntity .all)).mapM m.dataOf = .ok ds) :
    ∃ ds', (rows.map (·.toEntity (.only names.eraseDups))).mapM m.dataOf = .ok ds' ∧
      List.Forall₂ (k.AgreeOn fields) ds' ds := by
  simp only [mapM_eq_ok, List.forall₂_map_left_iff, Manager.dataOf_eq_ok, hm] at h ⊢
  induction h with
  | nil => exact ⟨[], .nil, .nil⟩
  | @cons r d rows ds hd _ ih =>
    have hsubset : k.requiredFields ⊆ fields := hrequired.resolve_right (List.cons_ne_nil d ds)
    obtain ⟨d', hd', hagree⟩ :=
      RecordKind.exists_toData_of_shows (StoredRecord.shows_toEntity hnames) hsubset hd
    obtain ⟨ds', hds', hagrees⟩ := ih (.inl hsubset)
    exact ⟨d' :: ds', .cons hd' hds', .cons hagree hagrees⟩

/-- Under a projection without a required field the first row has no data object. -/
lemma mapM_projected_of_not_mem (hm : m.mapper = k.mapper) {rows : List StoredRecord}
    (hnames : List.Forall₂ (fun field name => k.mapper.attributeOf? field = some name) fields names)
    {field : String} (hfield : field ∈ k.requiredFields) (hmissing : field ∉ fields)
    (hrows : rows ≠ []) :
    (rows.map (·.toEntity (.only names.eraseDups))).mapM m.dataOf =
      .error (.ofMappingOut (.missingField field)) := by
  obtain ⟨r, rest, rfl⟩ := List.exists_cons_of_ne_nil hrows
  have hfirst : m.dataOf (r.toEntity (.only names.eraseDups)) =
      .error (.ofMappingOut (.missingField field)) := by
    unfold Manager.dataOf
    rw [hm, StoredRecord.toData_toEntity_of_not_mem hnames hfield hmissing]
    rfl
  rw [List.map_cons, List.mapM_cons, hfirst]
  rfl

/-- A query that returns a record fails under a projection without a required field. -/
lemma missesField_of_query (hm : m.mapper = k.mapper) (hne : fields ≠ [])
    (hmapped : ∀ field ∈ fields, ∃ name, k.mapper.attributeOf? field = some name)
    (h : ((m.query { request with select := none }).outcome scope b).2.1 = .ok ds)
    (hds : ds ≠ []) (hlacks : ¬k.requiredFields ⊆ fields) :
    m.MissesField request fields scope b := by
  obtain ⟨names, rows, hnames, hdata, hprojected⟩ := exists_rows_of_query hm hne hmapped h
  obtain ⟨field, hfield, hmissing⟩ : ∃ field ∈ k.requiredFields, field ∉ fields := by
    simpa only [List.subset_def, not_forall, exists_prop] using hlacks
  have hrows : rows ≠ [] := by
    rintro rfl
    exact hds (Except.ok.inj hdata).symm
  exact ⟨field, hfield, hmissing,
    hprojected.trans (mapM_projected_of_not_mem hm hnames hfield hmissing hrows)⟩

/-- **When a projection keeps the answer of a query.**  Whatever a store holds and whatever other
writers are about to do, a projection to mapped fields keeps the answer of a query precisely if it
selects the fields that a record of the kind cannot be read without, or if no row is returned.  If
it does not select them and a row is returned without it, then the query fails with it, and the
error names a field that is missing. -/
theorem Manager.keepsAnswer_iff (hm : m.mapper = k.mapper) (hne : fields ≠ [])
    (hmapped : ∀ field ∈ fields, ∃ name, k.mapper.attributeOf? field = some name) :
    (m.KeepsAnswer request fields scope b ↔ k.requiredFields ⊆ fields ∨
      ∀ ds, ((m.query { request with select := none }).outcome scope b).2.1 = .ok ds → ds = []) ∧
    ∀ ds, ((m.query { request with select := none }).outcome scope b).2.1 = .ok ds → ds ≠ [] →
      ¬k.requiredFields ⊆ fields → m.MissesField request fields scope b := by
  refine ⟨⟨?keeps, ?required⟩, fun ds hds => missesField_of_query hm hne hmapped hds⟩
  case keeps =>
    intro h
    by_cases hsubset : k.requiredFields ⊆ fields
    · exact .inl hsubset
    · -- a row would make the query fail under the projection
      refine .inr fun ds hds => ?_
      by_contra hsome
      obtain ⟨ds', hds', -⟩ := h ds hds
      obtain ⟨field, -, -, herror⟩ := missesField_of_query hm hne hmapped hds hsome hsubset
      cases hds'.symm.trans herror
  case required =>
    intro hrequired ds hds
    obtain ⟨names, rows, hnames, hdata, hprojected⟩ := exists_rows_of_query hm hne hmapped hds
    have hcase : k.requiredFields ⊆ fields ∨ ds = [] := hrequired.imp_right fun h => h ds hds
    obtain ⟨ds', hds', hagree⟩ := exists_projected_rows hm hnames hcase hdata
    exact ⟨ds', hprojected.trans hds', hagree⟩

end Projected

/-! ### A company without its name -/

namespace CityAlone

/-- A store with one company, in Berlin. -/
def backend : Backend CountedTokens where
  store := (Store.empty.seed {
    logicalName := Account.logicalName
    id := some (.ofNat 1)
    rowVersion := none
    attributes := (Attributes.empty.set "name" (.string "Acme")).set "address1_city"
      (.string "Berlin") } .nil).1
  faults := []
  tokens := .ofToken "token"

/-- What the request for all companies leads to under a projection. -/
def result (select : Option (List String)) : Except RecordError (List Account) :=
  ((Account.manager.query { QueryRequest.all with select }).outcome (.ofCaller .anonymous)
    backend).2.1

/-- Without a projection the company is returned. -/
lemma result_none : result none = .ok [⟨some "00000000-0000-0000-0000-000000000001", some "1",
    "Acme", none, none, some "Berlin"⟩] := by
  decide +kernel

/-- A projection to the city alone leaves a company without its name, so that it cannot be read. -/
theorem not_keepsAnswer_city : ¬Manager.KeepsAnswer (k := .account) Account.manager .all ["city"]
    (.ofCaller .anonymous) backend := by
  intro h
  have hcity : result (some ["city"]) = .error (.internal
      "stored record could not be mapped: required field 'name' is missing") := by decide +kernel
  obtain ⟨ds, hds, -⟩ := h _ result_none
  cases hcity.symm.trans hds

/-- A projection to the name and the city keeps the answer, and one to the city alone does not
succeed. -/
theorem keepsAnswer_name_city :
    Manager.KeepsAnswer (k := .account) Account.manager .all ["name", "city"]
        (.ofCaller .anonymous) backend ∧
      Manager.MissesField (k := .account) Account.manager .all ["city"]
        (.ofCaller .anonymous) backend := by
  have hname : Account.mapper.attributeOf? "name" = some "name" := rfl
  have hcity : Account.mapper.attributeOf? "city" = some "address1_city" := rfl
  constructor
  · refine (Manager.keepsAnswer_iff rfl (List.cons_ne_nil _ _) ?_).1.mpr
      (.inl (List.cons_subset_cons _ (List.nil_subset _)))
    intro field hfield
    rcases List.mem_pair.mp hfield with rfl | rfl
    · exact ⟨_, hname⟩
    · exact ⟨_, hcity⟩
  · refine (Manager.keepsAnswer_iff rfl (List.cons_ne_nil _ _) ?_).2 _ result_none
      (List.cons_ne_nil _ _) (by decide)
    intro field hfield
    obtain rfl := List.mem_singleton.mp hfield
    exact ⟨_, hcity⟩

end CityAlone

end RecordGateway
