import Mathlib.Data.List.Induction
import RecordGateway.Mapping.Table
import RecordGateway.Proofs.Attributes
import RecordGateway.Proofs.Compilation.Success
import RecordGateway.Proofs.Store.Pages

/-!
# Projections of the rows of a store

The columns of a request that selects some fields are the attributes behind these fields, each one
once and in the order in which they occur first, however the fields repeat and however many of them
share an attribute.  The columns have no influence on which rows are returned, even if the request
filters and sorts by attributes outside of them.  They decide only what is shown of a row: its
attributes in the columns, and the one of its identifier, as they are stored.
-/

namespace RecordGateway

/-! ### Columns -/

/-- Whether a list has the members of another one without repetition, in the order in which they
occur there first. -/
structure FirstOccurrences (names columns : List String) : Prop where
  nodup : columns.Nodup
  mem_iff : ∀ name, name ∈ columns ↔ name ∈ names
  ordered : columns.Pairwise fun a b => names.idxOf a < names.idxOf b

/-- Without its repetitions a list grows by a further member precisely if the member is new. -/
lemma eraseDups_concat (names : List String) (name : String) :
    (names ++ [name]).eraseDups =
      if name ∈ names then names.eraseDups else names.eraseDups ++ [name] := by
  rw [List.eraseDups_append]
  by_cases h : name ∈ names <;> simp [List.removeAll, h, List.eraseDups_cons]

namespace FirstOccurrences

variable {names columns : List String} {name : String}

/-- Members in the order of their first occurrence do not repeat. -/
lemma of_ordered (hmem : ∀ name, name ∈ columns ↔ name ∈ names)
    (hordered : columns.Pairwise fun a b => names.idxOf a < names.idxOf b) :
    FirstOccurrences names columns where
  nodup := hordered.imp fun hlt heq => Nat.ne_of_lt hlt (congrArg names.idxOf heq)
  mem_iff := hmem
  ordered := hordered

/-- A further member leaves the order of the other ones as it is. -/
lemma ordered_concat (h : FirstOccurrences names columns) (name : String) :
    columns.Pairwise fun a b => (names ++ [name]).idxOf a < (names ++ [name]).idxOf b := by
  refine h.ordered.imp_of_mem fun ha hb hlt => ?_
  rwa [List.idxOf_append_of_mem ((h.mem_iff _).mp ha),
    List.idxOf_append_of_mem ((h.mem_iff _).mp hb)]

/-- A member that has occurred before adds nothing. -/
lemma concat_of_mem (h : FirstOccurrences names columns) (hmem : name ∈ names) :
    FirstOccurrences (names ++ [name]) columns := by
  refine of_ordered (fun a => ?_) (h.ordered_concat name)
  rw [h.mem_iff, List.mem_append, List.mem_singleton]
  exact ⟨.inl, fun ha => ha.elim id fun heq => heq ▸ hmem⟩

/-- A new member comes behind all others. -/
lemma concat_of_notMem (h : FirstOccurrences names columns) (hnew : name ∉ names) :
    FirstOccurrences (names ++ [name]) (columns ++ [name]) := by
  refine of_ordered (fun a => ?_) (List.pairwise_append.mpr
    ⟨h.ordered_concat name, List.pairwise_singleton _ _, fun a ha b hb => ?_⟩)
  · rw [List.mem_append, List.mem_append, h.mem_iff]
  · obtain rfl := List.mem_singleton.mp hb
    have hbefore := (h.mem_iff a).mp ha
    rw [List.idxOf_append_of_mem hbefore, List.idxOf_append_of_notMem hnew]
    exact Nat.lt_add_right _ (List.idxOf_lt_length_of_mem hbefore)

end FirstOccurrences

/-- A list without its repetitions is that of the first occurrences in it. -/
theorem firstOccurrences_eraseDups (names : List String) :
    FirstOccurrences names names.eraseDups := by
  -- The names are taken one by one from the front, so the induction splits off the last one.
  induction names using List.reverseRecOn with
  | nil => exact ⟨List.nodup_nil, fun _ => Iff.rfl, List.Pairwise.nil⟩
  | append_singleton names name ih =>
    rw [eraseDups_concat]
    split
    case isTrue hmem => exact ih.concat_of_mem hmem
    case isFalse hnew => exact ih.concat_of_notMem hnew

/-! ### Rows -/

/-- Whether an entity shows a record: what it has of the attributes are those in some columns and
the one of the identifier, with the values that are stored. -/
structure StoredRecord.ShownAs (columns : List String) (row : StoredRecord) (e : Entity) :
    Prop where
  logicalName_eq : e.logicalName = row.logicalName
  id_eq : e.id = some row.id
  rowVersion_eq : e.rowVersion = some (versionToken row.version)
  get?_eq : ∀ name, e.get? name =
    if name ∈ columns ∨ name = primaryAttribute row.logicalName then row.attributes.get? name
    else none

/-- The entity that is made of a record shows it. -/
lemma StoredRecord.shownAs_toEntity (columns : List String) (row : StoredRecord) :
    row.ShownAs columns (row.toEntity (.only columns)) where
  logicalName_eq := rfl
  id_eq := rfl
  rowVersion_eq := rfl
  get?_eq name := by
    unfold Entity.get? toEntity
    rw [Attributes.get?_restrict]
    simp only [ColumnSet.includes, Bool.or_eq_true, beq_iff_eq, List.contains_iff_mem, or_comm]

/-- What tells the state of a record: its identifier and its row version. -/
def Entity.state (e : Entity) : Option Uuid × Option String :=
  (e.id, e.rowVersion)

/-- Whether a query differs from another one in nothing but what it shows of the rows: in every
state of a store both are answered with the same records in the same order, of which the query shows
some columns. -/
def NativeQuery.Projects (columns : List String) (projected whole : NativeQuery) : Prop :=
  ∀ s : Store, ∃ (rows : List StoredRecord) (entities all : List Entity),
    (s.retrieveMultiple projected).2 = .ok entities ∧
    (s.retrieveMultiple whole).2 = .ok all ∧
    entities.map Entity.state = all.map Entity.state ∧
    List.Forall₂ (StoredRecord.ShownAs columns) rows entities ∧
    ∀ row ∈ rows, row ∈ (s.enter .retrieveMultiple).records ∧
      row.logicalName = projected.entityName

/-- A query with some columns shows these columns of what it would return with all of them. -/
lemma NativeQuery.projects_only (columns : List String) (native : NativeQuery) :
    NativeQuery.Projects columns { native with columns := .only columns }
      { native with columns := .all } := by
  intro s
  refine ⟨Store.onPage native.page (Store.rows native (s.enter .retrieveMultiple).records), _, _,
    Store.retrieveMultiple_snd s _, Store.retrieveMultiple_snd s _, ?_, ?_, fun row hrow =>
      Store.of_mem_rows (Store.mem_of_mem_onPage hrow)⟩
  · simp only [Store.select, List.map_map]
    rfl
  · exact List.forall₂_map_right_iff.mpr
      (List.forall₂_same.mpr fun row _ => row.shownAs_toEntity columns)

/-- **Projections are exact.**  The columns of a request with selected fields are the attributes
behind these, without repetition and in order of first occurrence; and in every state of a store the
request is answered with the rows of the same request without selected fields, and shows of each one
the stored attributes in the columns and the one of the identifier. -/
theorem QueryRequest.projects_of_compile {q : QueryRequest} {fields : List String} {r : Resolver}
    {maxPageSize : UInt32} {entityName : String} {native : NativeQuery}
    (hselect : q.select = some fields) (h : q.compile r maxPageSize entityName = .ok native) :
    ∃ (names columns : List String) (whole : NativeQuery),
      List.Forall₂ (fun field name => r.attributeOf? field = some name) fields names ∧
      native.columns = .only columns ∧ FirstOccurrences names columns ∧
      { q with select := none }.compile r maxPageSize entityName = .ok whole ∧
      native.Projects columns whole := by
  obtain ⟨hpage, hcriteria, hcolumns, horders, hname⟩ := compile_eq_ok.mp h
  rw [hselect] at hcolumns
  obtain ⟨-, names, hnames, hcolumns⟩ := columnsOf_eq_ok.mp hcolumns
  refine ⟨names, names.eraseDups, { native with columns := .all }, hnames, hcolumns,
    firstOccurrences_eraseDups names,
    compile_eq_ok.mpr ⟨hpage, hcriteria, rfl, horders, hname⟩, ?_⟩
  have hnative : native = { native with columns := .only names.eraseDups } := by rw [← hcolumns]
  rw [hnative]
  exact NativeQuery.projects_only names.eraseDups native

/-! ### Two fields of one attribute -/

namespace Namesakes

/-- A person's name can be asked for in two ways. -/
def resolver : Resolver :=
  .ofTable [("name", "fullname"), ("label", "fullname"), ("city", "town"), ("age", "years")] []

/-- The cities and names of the adults from the oldest on; the fields repeat, and the age is not
among them. -/
def request : QueryRequest where
  filter := some (.compare "age" .ge (.int 18))
  orderBy := [⟨"age", .descending⟩]
  select := some ["city", "label", "city", "name"]
  skip := none
  top := none

/-- The name is one column. -/
def native : NativeQuery where
  entityName := "person"
  criteria := ⟨.and, [⟨"years", .greaterEqual, [.int 18]⟩], []⟩
  columns := .only ["town", "fullname"]
  orders := [⟨"years", .descending⟩]
  page := none

/-- The request shows two columns of the rows that it is answered with for all of them. -/
theorem projects_native :
    request.compile resolver 100 "person" = .ok native ∧ ∃ whole,
      { request with select := none }.compile resolver 100 "person" = .ok whole ∧
      native.Projects ["town", "fullname"] whole := by
  have hcompile : request.compile resolver 100 "person" = .ok native := rfl
  obtain ⟨names, columns, whole, -, hcolumns, -, hwhole, hprojects⟩ :=
    QueryRequest.projects_of_compile rfl hcompile
  obtain rfl : ["town", "fullname"] = columns := ColumnSet.only.inj hcolumns
  exact ⟨hcompile, whole, hwhole, hprojects⟩

end Namesakes

end RecordGateway
