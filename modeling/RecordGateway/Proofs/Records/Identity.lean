import RecordGateway.Proofs.Compilation.Success
import RecordGateway.Proofs.Records.Spellings
import RecordGateway.Proofs.Store.ResultOrder

/-!
# The identity of records

A record is the same record in whatever spelling its identifier comes, and what operations return
carries the canonical spelling, in which it can be sent back.

The second half is about everything that operations on accounts and contacts return, whatever other
writers do meanwhile.  `Operation.Returns` follows an operation through the stores that it finds; a
data object that is returned has been read in the last one of them.
-/

namespace RecordGateway

/-! ### What operations return -/

namespace Operation

variable {S α β ε : Type} [TokenSource S] {s : Store}

/-- Whether an operation that starts with a store, if it succeeds, returns what has a property
together with the store that is left then. -/
def Returns (S : Type) [TokenSource S] (x : Operation α) (s : Store) (post : α → Store → Prop) :
    Prop :=
  ∀ (scope : RequestScope) (b : Backend S), b.store = s →
    ∀ b' a scope', x.outcome scope b = (b', .ok a, scope') → post a b'.store

variable {post : α → Store → Prop}

/-- Every operation that succeeds returns something. -/
lemma returns_true (x : Operation α) : x.Returns S s fun _ _ => True :=
  fun _ _ _ _ _ _ _ => trivial

/-- What an operation returns has every weaker property as well. -/
lemma Returns.imp {x : Operation α} {post' : α → Store → Prop} (h : x.Returns S s post)
    (hpost : ∀ a s', post a s' → post' a s') : x.Returns S s post' :=
  fun scope b hs b' a scope' houtcome => hpost a _ (h scope b hs b' a scope' houtcome)

/-- Returning a value leaves the store as it is. -/
lemma returns_pure {a : α} (h : post a s) : (pure a : Operation α).Returns S s post := by
  rintro scope b rfl b' a' scope' houtcome
  cases houtcome
  exact h

/-- An operation that fails returns nothing. -/
lemma returns_throw (e : RecordError) : (throw e : Operation α).Returns S s post := by
  intro scope b _ b' a scope' houtcome
  cases houtcome

/-- A result that is at hand is returned if it is no error. -/
lemma returns_ofExcept {f : ε → RecordError} {x : Except ε α} (h : ∀ a, x = .ok a → post a s) :
    (ofExcept f x).Returns S s post := by
  cases x with
  | ok a => exact returns_pure (h a rfl)
  | error e => exact returns_throw (f e)

/-- A sequence of operations: the second one starts with what the first one leaves. -/
lemma returns_bind {x : Operation β} {f : β → Operation α} (mid : β → Store → Prop)
    (hx : x.Returns S s mid) (hf : ∀ c s', mid c s' → (f c).Returns S s' post) :
    (x >>= f).Returns S s post := by
  intro scope b hs b'' a scope'' houtcome
  obtain ⟨b', c, scope', hfirst, hsecond⟩ := outcome_bind_eq_ok.mp houtcome
  exact hf c _ (hx scope b hs b' c scope' hfirst) scope' b' rfl b'' a scope'' hsecond

/-- A sequence of which nothing matters but the second part. -/
lemma returns_bind_of_forall {x : Operation β} {f : β → Operation α}
    (hf : ∀ c s', (f c).Returns S s' post) : (x >>= f).Returns S s post :=
  returns_bind _ (returns_true x) fun c s' _ => hf c s'

/-- A function of what an operation returns has a property if the operation returns what the
function takes there. -/
lemma returns_map {x : Operation β} {f : β → α} (hx : x.Returns S s fun c s' => post (f c) s') :
    (f <$> x).Returns S s post := by
  rw [← bind_pure_comp]
  exact returns_bind _ hx fun c s' h => returns_pure h

/-- An operation that is caught returns what it returns itself, or what the handler returns,
whatever store the failure has left. -/
lemma returns_tryCatch {x : Operation α} {handle : RecordError → Operation α}
    (hx : x.Returns S s post) (hhandle : ∀ e s', (handle e).Returns S s' post) :
    (tryCatch x handle).Returns S s post := by
  intro scope b hs b'' a scope'' houtcome
  rw [outcome_tryCatch] at houtcome
  rcases hoc : x.outcome scope b with ⟨b', result, scope'⟩
  rw [hoc] at houtcome
  cases result with
  | ok c => exact hx scope b hs b'' a scope'' (hoc.trans houtcome)
  | error e => exact hhandle e _ scope' b' rfl b'' a scope'' houtcome

/-- A call of the store returns what the store answers, with the store that it leaves. -/
lemma returns_call {point : FaultPoint} {f : Store → Store × Except StoreError α}
    {x : Operation α}
    (hx : ∀ (scope : RequestScope) (b : Backend S), x.outcome scope b =
      ((b.call point f).1, (b.call point f).2.mapError .ofStore, scope))
    (h : ∀ a, (f s).2 = .ok a → post a (f s).1) : x.Returns S s post := by
  rintro scope b rfl b' a scope' houtcome
  rw [hx] at houtcome
  obtain ⟨rfl, hanswer, -⟩ := Prod.mk.inj houtcome |>.imp_right Prod.mk.inj
  have hok := mapError_eq_ok.mp hanswer
  rcases b.call_cases point f with ⟨-, ⟨e, herror⟩, -⟩ | ⟨-, hcall, hstore⟩
  · exact absurd (herror.symm.trans hok) (by simp)
  · rw [hstore]
    exact h a (hcall.symm.trans hok)

end Operation

namespace Session

variable {S : Type} [TokenSource S] {s : Store}

/-- A record that is read is one of the store that is left. -/
lemma returns_retrieve (logicalName : String) (id : Uuid) (columns : ColumnSet) :
    (retrieve logicalName id columns).Returns S s fun found s' => ∀ e, found = some e →
      ∃ r, s'.find? logicalName id = some r ∧ e = r.toEntity columns := by
  refine Operation.returns_call (f := fun store => store.retrieve logicalName id columns)
    (fun scope b => Operation.outcome_ofScript _ _) ?_
  rintro found hfound e rfl
  obtain ⟨r, hr, he⟩ := Option.map_eq_some_iff.mp (Except.ok.inj hfound)
  exact ⟨r, hr, he.symm⟩

/-- The rows that are read are rows of the store that is left. -/
lemma returns_retrieveMultiple (q : NativeQuery) :
    (retrieveMultiple q).Returns S s fun es s' => es = s'.select q := by
  refine Operation.returns_call (f := fun store => store.retrieveMultiple q)
    (fun scope b => Operation.outcome_ofScript _ _) ?_
  exact fun es hes => (Except.ok.inj hes).symm

/-- A record that is created gets its own identifier, or else the fresh one. -/
lemma returns_create (e : Entity) (fresh : Uuid) :
    (create e fresh).Returns S s fun id _ => id = e.id.getD fresh := by
  refine Operation.returns_call (f := fun store => store.create e fresh)
    (fun scope b => Operation.outcome_ofScript _ _) fun id hid => ?_
  unfold Store.create at hid
  dsimp only at hid
  split at hid
  · cases hid
  · split at hid
    · cases hid
    · exact (Except.ok.inj hid).symm

end Session

/-! ### Operations of a manager -/

/-- The data objects that a call returns. -/
def ManagerCall.returned {D P : Type} : (c : ManagerCall D P) → c.Result → List D
  | insert _ _, d => [d]
  | lookup _, found => found.toList
  | query _, ds => ds
  | replace _ _, d => [d]
  | patch _ _, found => found.toList
  | delete _, _ => []

/-- Whether a call may return the record with an identifier: a query may return any record, and
every other call the one that it names. -/
def ManagerCall.MayReturn {D P : Type} [DataObject D P] (id : Uuid) : ManagerCall D P → Prop
  | insert data fresh => InsertedUnder data fresh id
  | query _ => True
  | lookup idText | replace idText _ | patch idText _ | delete idText => idOfText? idText = some id

namespace RecordKind

/-- A data object under an identifier, in the given spelling. -/
def withIdText : (k : RecordKind) → k.Data → String → k.Data
  | account, a, text => { a with id := some text }
  | contact, c, text => { c with id := some text }

/-- The identifier of a data object can be spelled in another way without a change to the rest. -/
lemma respells_withIdText (k : RecordKind) {data : k.Data} {own text : String}
    (hown : DataObject.id data = some own) (hsame : SameId own text) :
    k.mapper.Respells data (k.withIdText data text) := by
  cases k with
  | account => exact ⟨⟨own, text, hown, rfl, hsame⟩, rfl, rfl⟩
  | contact => exact ⟨⟨own, text, hown, rfl, hsame⟩, rfl, rfl⟩

end RecordKind

namespace Manager

/-- Whether a data object can be sent back as that of a record: it carries the canonical text of the
record's identifier, which is read as the identifier, so that an insertion takes it over and a
replacement, under whatever spelling, needs nothing but the entity of the data object. -/
structure SendsBack {D P : Type} [DataObject D P] (m : Manager D) (d : D) (id : Uuid) : Prop where
  canonical : DataObject.id d = some id.toText
  reads : idOfText? id.toText = some id
  inserted : presetId d = .ok (some id)
  replaced : ∀ idText, idOfText? idText = some id →
    ∃ version, DataObject.version d = some version ∧ m.replacement idText d =
      (m.entityOf d).map fun entity =>
        (id, version, { entity with id := some id, rowVersion := some version })

section Kinds

variable {S : Type} [TokenSource S] {k : RecordKind} {m : Manager k.Data} {s : Store} {d : k.Data}
  {id : Uuid}

/-- Whether a data object is that of a record of a store, and can be sent back as such. -/
def Shows (m : Manager k.Data) (s : Store) (d : k.Data) (id : Uuid) : Prop :=
  (∃ r ∈ s.records, r.logicalName = m.logicalName ∧ r.id = id ∧
    DataObject.version d = some (versionToken r.version)) ∧ m.SendsBack d id

/-- The data object of an entity of a record shows the record. -/
lemma shows_of_dataOf (hm : m.mapper = k.mapper) {r : StoredRecord} (hr : r ∈ s.records)
    (hname : r.logicalName = m.logicalName) {columns : ColumnSet}
    (h : m.dataOf (r.toEntity columns) = .ok d) : m.Shows s d r.id := by
  obtain ⟨hid, hversion⟩ := RecordKind.id_version_of_toData (hm ▸ dataOf_eq_ok.mp h)
    (rfl : (r.toEntity columns).id = some r.id)
  have hreads := idOfText?_toText r.id
  refine ⟨⟨r, hr, hname, rfl, hversion⟩, hid, hreads, presetId_of_idOfText? hid hreads,
    fun idText hidText => ⟨_, hversion, ?_⟩⟩
  rw [replacement_eq_of_namesNoOther hidText (namesNoOther_of_idOfText? hid hreads),
    givenVersion?_eq_some hversion (versionToken_ne_empty _)]

/-- A record that is fetched by an identifier is shown as it is stored. -/
lemma returns_fetch (hm : m.mapper = k.mapper) (id : Uuid) :
    (m.fetch id).Returns S s fun found s' => ∀ d, found = some d → m.Shows s' d id := by
  refine Operation.returns_bind _ (Session.returns_retrieve m.logicalName id .all) ?_
  intro found s' hfound
  cases found with
  | none => exact Operation.returns_pure (by simp)
  | some e =>
    obtain ⟨r, hr, rfl⟩ := hfound e rfl
    obtain ⟨hname, rfl⟩ := Store.isAt_of_find? hr
    refine Operation.returns_map (Operation.returns_ofExcept fun d hd => ?_)
    rintro d' ⟨⟩
    exact shows_of_dataOf hm (List.mem_of_find?_eq_some hr) hname hd

/-- A record that is looked up is shown as it is stored, under the identifier that the text names.
-/
lemma returns_lookup (hm : m.mapper = k.mapper) (idText : String) :
    (m.lookup idText).Returns S s fun found s' => ∀ d, found = some d →
      ∃ id, idOfText? idText = some id ∧ m.Shows s' d id := by
  unfold lookup
  cases hid : idOfText? idText with
  | none => exact Operation.returns_pure (by simp)
  | some id =>
    refine Operation.returns_bind_of_forall fun _ s' => ?_
    exact (returns_fetch hm id).imp fun found s' hfound d hd => ⟨id, rfl, hfound d hd⟩

/-- A record that is inserted is shown as it is stored then, under the identifier that the insertion
gives it. -/
lemma returns_insert (hm : m.mapper = k.mapper) (data : k.Data) (fresh : Uuid) :
    (m.insert data fresh).Returns S s fun d s' =>
      ∃ id, InsertedUnder data fresh id ∧ m.Shows s' d id := by
  refine Operation.returns_bind_of_forall fun entity s' => ?_
  refine Operation.returns_bind (fun preset _ => presetId data = .ok preset)
    (Operation.returns_ofExcept fun _ h => h) fun preset s' hpreset => ?_
  refine Operation.returns_bind_of_forall fun _ s' => ?_
  refine Operation.returns_bind _ (Session.returns_create _ fresh) ?_
  rintro _ s' rfl
  refine Operation.returns_bind _ (returns_fetch hm _) fun found s' hfound => ?_
  cases found with
  | none => exact Operation.returns_throw _
  | some created =>
    exact Operation.returns_pure
      ⟨_, insertedUnder_iff.mpr ⟨preset, hpreset, rfl⟩, hfound created rfl⟩

/-- A record that is replaced is shown as it is stored then, under the identifier that the text
names. -/
lemma returns_replace (hm : m.mapper = k.mapper) (idText : String) (data : k.Data) :
    (m.replace idText data).Returns S s fun d s' =>
      ∃ id, idOfText? idText = some id ∧ m.Shows s' d id := by
  refine Operation.returns_bind (fun needed _ => m.replacement idText data = .ok needed)
    (Operation.returns_ofExcept fun _ h => h) ?_
  rintro ⟨id, version, entity⟩ s' hreplacement
  obtain ⟨hid, -⟩ := replacement_eq_ok hreplacement
  refine Operation.returns_bind_of_forall fun _ s' => ?_
  refine Operation.returns_bind_of_forall fun found s' => ?_
  cases found with
  | none => exact Operation.returns_throw _
  | some current =>
    dsimp only
    split
    · exact Operation.returns_throw _
    · refine Operation.returns_bind_of_forall fun _ s' => ?_
      refine Operation.returns_bind _ (returns_fetch hm id) fun found s' hfound => ?_
      cases found with
      | none => exact Operation.returns_throw _
      | some updated => exact Operation.returns_pure ⟨id, hid, hfound updated rfl⟩

/-- A record that is updated in part is shown as it is stored then, under the identifier that the
text names. -/
lemma returns_patch (hm : m.mapper = k.mapper) (idText : String) (update : k.Patch) :
    (m.patch idText update).Returns S s fun found s' => ∀ d, found = some d →
      ∃ id, idOfText? idText = some id ∧ m.Shows s' d id := by
  refine Operation.returns_bind_of_forall fun found s' => ?_
  cases found with
  | none => exact Operation.returns_pure (by simp)
  | some current =>
    refine Operation.returns_tryCatch (Operation.returns_map ?_) fun e s' => ?_
    · refine (returns_replace hm idText _).imp fun d s' hd d' hd' => ?_
      obtain rfl := Option.some.inj hd'
      exact hd
    · cases e with
      | notFound name text => exact Operation.returns_pure (by simp)
      | _ => exact Operation.returns_throw _

/-- The records that a query finds are shown as they are stored. -/
lemma returns_query (hm : m.mapper = k.mapper) (request : QueryRequest) :
    (m.query request).Returns S s fun ds s' => ∀ d ∈ ds, ∃ id, m.Shows s' d id := by
  refine Operation.returns_bind (fun native _ => native.entityName = m.logicalName)
    (Operation.returns_ofExcept fun native hnative =>
      (QueryRequest.compile_eq_ok.mp hnative).2.2.2.2) fun native s' hname => ?_
  split
  · exact Operation.returns_pure fun d hd => absurd hd List.not_mem_nil
  · refine Operation.returns_bind_of_forall fun _ s' => ?_
    refine Operation.returns_bind _ (Session.returns_retrieveMultiple native) ?_
    rintro _ s' rfl
    refine Operation.returns_ofExcept fun ds hds d hd => ?_
    obtain ⟨e, he, hdata⟩ := exists_of_forall₂_of_mem (mapM_eq_ok.mp hds) hd
    obtain ⟨r, hr, rfl⟩ := List.mem_map.mp he
    obtain ⟨hmem, hentity⟩ := Store.of_mem_rows (Store.mem_of_mem_onPage hr)
    exact ⟨r.id, shows_of_dataOf hm hmem (hentity.trans hname) hdata⟩

/-- What a call returns are data objects of records of the store that is left, which it may return,
and they can be sent back. -/
lemma returns_perform (hm : m.mapper = k.mapper) (call : ManagerCall k.Data k.Patch) :
    (m.perform call).Returns S s fun result s' => ∀ d ∈ call.returned result,
      ∃ id, call.MayReturn id ∧ m.Shows s' d id := by
  cases call with
  | insert data fresh =>
    refine (returns_insert hm data fresh).imp fun d s' hd d' hd' => ?_
    obtain rfl := List.mem_singleton.mp hd'
    exact hd
  | lookup idText =>
    exact (returns_lookup hm idText).imp fun found s' hfound d hd =>
      hfound d (Option.mem_toList.mp hd)
  | query request =>
    refine (returns_query hm request).imp fun ds s' hds d hd => ?_
    obtain ⟨id, hid⟩ := hds d hd
    exact ⟨id, trivial, hid⟩
  | replace idText data =>
    refine (returns_replace hm idText data).imp fun d s' hd d' hd' => ?_
    obtain rfl := List.mem_singleton.mp hd'
    exact hd
  | patch idText update =>
    exact (returns_patch hm idText update).imp fun found s' hfound d hd =>
      hfound d (Option.mem_toList.mp hd)
  | delete idText => exact fun _ _ _ _ _ _ _ d hd => absurd hd List.not_mem_nil

end Kinds

/-! ### Both halves -/

/-- What is promised for a manager to which one identifier is given in two spellings. -/
structure TakesAnySpelling {D P : Type} [DataObject D P] (m : Manager D) : Prop where
  /-- Look-ups in two spellings are the same operation. -/
  lookup_eq : ∀ text text', SameId text text' → m.lookup text = m.lookup text'
  /-- So are deletions. -/
  delete_eq : ∀ text text', SameId text text' → m.delete text = m.delete text'
  /-- Replacements do the same, and have the same result but for the texts in errors. -/
  replace_alike : ∀ text text' data, SameId text text' →
    (m.replace text data).Alike (RecordError.Respelled text text') (m.replace text' data)
  /-- So do partial updates. -/
  patch_alike : ∀ text text' update, SameId text text' →
    (m.patch text update).Alike (RecordError.Respelled text text') (m.patch text' update)
  /-- Insertions of a data object with its identifier in two spellings are the same operation. -/
  insert_eq : ∀ data data' fresh, m.mapper.Respells data data' →
    m.insert data fresh = m.insert data' fresh
  /-- So are replacements by such a data object, if the identifier is that of the record. -/
  replace_eq : ∀ text data data' own, m.mapper.Respells data data' →
    DataObject.id data = some own → SameId own text → m.replace text data = m.replace text data'
  /-- If it is not, they do the same, and the refusals quote the identifier as it is spelled. -/
  replace_data_alike : ∀ text data data', m.mapper.Respells data data' →
    (m.replace text data).Alike (RecordError.Respelled text text) (m.replace text data')

/-- What is promised for the data objects of a kind. -/
structure AnswersCanonically {k : RecordKind} (m : Manager k.Data) : Prop where
  /-- A data object with its identifier in another spelling is the same otherwise. -/
  respells : ∀ data own text, DataObject.id data = some own → SameId own text →
    m.mapper.Respells data (k.withIdText data text)
  /-- Whatever a store holds, and whatever other writers and faults are due: every data object that
  a call returns is that of a record which the call may return and which the store then has, and can
  be sent back under the canonical text of the identifier. -/
  returned : ∀ {S : Type} [TokenSource S] (call : ManagerCall k.Data k.Patch)
    (scope : RequestScope) (b : Backend S) (result : call.Result),
    ((m.perform call).outcome scope b).2.1 = .ok result → ∀ d ∈ call.returned result,
      ∃ id, call.MayReturn id ∧ m.Shows ((m.perform call).outcome scope b).1.store d id

/-- One identifier in two spellings is one identifier to every manager. -/
lemma takesAnySpelling {D P : Type} [DataObject D P] (m : Manager D) : m.TakesAnySpelling where
  lookup_eq _ _ := lookup_eq_of_sameId
  delete_eq _ _ := delete_eq_of_sameId
  replace_alike _ _ data h := alike_replace_of_replacement (replacement_alike h data)
  patch_alike _ _ update h := alike_patch h update
  insert_eq _ _ fresh h := insert_eq_of_respells h fresh
  replace_eq text data data' own h hown hsame := by
    unfold replace
    rw [replacement_eq_of_respells h hown hsame]
  replace_data_alike text _ _ h := alike_replace_of_replacement (replacement_respells h text)

end Manager

/-- **The identity of a record is its identifier, however it is spelled.**  The spellings of an
identifier are its four forms in either case, with any white space around.  Every manager does the
same for an identifier in two spellings, whatever answers its requests, and has the same result up
to the texts that errors quote; and what the managers of accounts and contacts return carries the
canonical spelling and can be sent back. -/
theorem identifiedInAnySpelling (k : RecordKind) (logicalName : String)
    (settings : ConnectionSettings) (maxPageSize : UInt32) :
    (∀ text id, idOfText? text = some id ↔ NamesId text id) ∧
      (∀ {D P : Type} [DataObject D P] (m : Manager D), m.TakesAnySpelling) ∧
      (k.manager logicalName settings maxPageSize).AnswersCanonically :=
  ⟨fun _ _ => idOfText?_eq_some_iff, fun m => m.takesAnySpelling, {
    respells := fun _ _ _ hown hsame => k.respells_withIdText hown hsame
    returned := fun call scope b _ hresult =>
      Manager.returns_perform rfl call scope b rfl _ _ _ (Prod.ext rfl (Prod.ext hresult rfl)) }⟩

example : SameId " {0000000A-0000-0000-0000-00000000000b}\t"
    "urn:uuid:0000000a-0000-0000-0000-00000000000B" :=
  ⟨.ofNat (10 * 2 ^ 96 + 11), by decide +kernel, by decide +kernel⟩

end RecordGateway
