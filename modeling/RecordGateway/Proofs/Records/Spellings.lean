import RecordGateway.Proofs.Records.ReadBack

/-!
# Identifiers in any spelling

An identifier can be written in several ways, and operations get it as it is written: in the text
that names the record, and in the data object.  What they do depends on the identifier alone.  Two
operations that are given the same identifier in two spellings ask the same requests, and their
results differ at most in how errors quote the texts; a look-up or a deletion is the same operation,
and so is an insertion.

This is a statement about two runs, and it is proved step by step: `Operation.Alike` holds of two
sequences if it holds of their parts.
-/

namespace RecordGateway

/-- Whether two texts are spellings of one identifier. -/
def SameId (text text' : String) : Prop :=
  ∃ id, idOfText? text = some id ∧ idOfText? text' = some id

/-- The refusal of a data object that names another record than the one that it is to replace. -/
def immutableId (other text : String) : RecordError :=
  .validation "id" s!"record identity is immutable: body names '{other}', path names '{text}'"

/-- Whether two errors differ at most in the texts that they quote: the first one quotes `text`
where the second one quotes `text'`, and each may quote a spelling of its own of the identifier of a
data object. -/
inductive RecordError.Respelled (text text' : String) : RecordError → RecordError → Prop
  | same (e : RecordError) : Respelled text text' e e
  | notFound (entity : String) :
    Respelled text text' (.notFound entity text) (.notFound entity text')
  | conflict (entity reason : String) :
    Respelled text text' (.conflict entity text reason) (.conflict entity text' reason)
  | validation {other other' : String} (h : other = other' ∨ SameId other other') :
    Respelled text text' (immutableId other text) (immutableId other' text')

/-- Whether two results are the same, up to related errors. -/
inductive ResultsAlike {α : Type} (R : RecordError → RecordError → Prop) :
    Except RecordError α → Except RecordError α → Prop
  | ok (a : α) : ResultsAlike R (.ok a) (.ok a)
  | error {e e' : RecordError} (h : R e e') : ResultsAlike R (.error e) (.error e')

/-- A result is like itself. -/
lemma ResultsAlike.refl {α : Type} {R : RecordError → RecordError → Prop} (hR : ∀ e, R e e)
    (result : Except RecordError α) : ResultsAlike R result result := by
  cases result with
  | ok a => exact .ok a
  | error e => exact .error (hR e)

namespace Operation

/-- Whether two operations do the same in every scope and whatever answers their requests, and have
the same result up to related errors. -/
def Alike {α : Type} (R : RecordError → RecordError → Prop) (x y : Operation α) : Prop :=
  ∀ {σ : Type} (answer : (r : Request) → σ → σ × r.Answer) (scope : RequestScope) (s : σ),
    ∃ s' result result' scope', (x.inScope scope).run answer s = (s', result, scope') ∧
      (y.inScope scope).run answer s = (s', result', scope') ∧ ResultsAlike R result result'

section Alike

variable {α β : Type} {R : RecordError → RecordError → Prop} {x y : Operation α}

/-- An operation is like itself. -/
lemma alike_refl (hR : ∀ e, R e e) (x : Operation α) : x.Alike R x :=
  fun _ _ _ => ⟨_, _, _, _, rfl, rfl, .refl hR _⟩

/-- Errors that are alike fail alike. -/
lemma alike_throw {e e' : RecordError} (h : R e e') :
    (throw e : Operation α).Alike R (throw e') :=
  fun _ _ _ => ⟨_, _, _, _, rfl, rfl, .error h⟩

/-- Results that are alike are at hand alike. -/
lemma alike_ofResult {result result' : Except RecordError α} (h : ResultsAlike R result result') :
    (ofResult result).Alike R (ofResult result') := by
  cases h with
  | ok a => exact fun _ _ _ => ⟨_, _, _, _, rfl, rfl, .ok a⟩
  | error h => exact alike_throw h

/-- Sequences are alike if their parts are. -/
lemma alike_bind {f g : α → Operation β} (hx : x.Alike R y) (hf : ∀ a, (f a).Alike R (g a)) :
    (x >>= f).Alike R (y >>= g) := by
  intro σ answer scope s
  obtain ⟨s', result, result', scope', hrun, hrun', halike⟩ := hx answer scope s
  simp only [inScope_bind, Script.run_bind, hrun, hrun']
  cases halike with
  | ok a => exact hf a answer scope' s'
  | error h => exact ⟨_, _, _, _, rfl, rfl, .error h⟩

/-- Functions of operations that are alike are alike. -/
lemma alike_map (f : α → β) (hR : ∀ e, R e e) (hx : x.Alike R y) :
    (f <$> x).Alike R (f <$> y) := by
  rw [← bind_pure_comp, ← bind_pure_comp]
  exact alike_bind hx fun a => alike_refl hR _

/-- Operations that are caught are alike if they are and their handlers are. -/
lemma alike_tryCatch {handle handle' : RecordError → Operation α} (hx : x.Alike R y)
    (hhandle : ∀ e e', R e e' → (handle e).Alike R (handle' e')) :
    (tryCatch x handle).Alike R (tryCatch y handle') := by
  intro σ answer scope s
  obtain ⟨s', result, result', scope', hrun, hrun', halike⟩ := hx answer scope s
  simp only [inScope_tryCatch, Script.run_bind, hrun, hrun']
  cases halike with
  | ok a => exact ⟨_, _, _, _, rfl, rfl, .ok a⟩
  | error h => exact hhandle _ _ h answer scope' s'

end Alike

end Operation

/-! ### Data objects -/

section Data

variable {D P : Type} [DataObject D P] {data data' : D}

/-- Whether two data objects carry one identifier in two spellings and are the same otherwise: they
have the same version and the same entity. -/
structure Mapper.Respells (mapper : Mapper D) (data data' : D) : Prop where
  sameId : ∃ own own', DataObject.id data = some own ∧ DataObject.id data' = some own' ∧
    SameId own own'
  version_eq : DataObject.version data = DataObject.version data'
  entity_eq : mapper.toEntity data = mapper.toEntity data'

end Data

/-! ### Operations -/

namespace Manager

variable {D P : Type} {m : Manager D} {text text' : String}

/-- A look-up does not depend on the spelling. -/
lemma lookup_eq_of_sameId (h : SameId text text') : m.lookup text = m.lookup text' := by
  obtain ⟨id, hid, hid'⟩ := h
  unfold lookup
  rw [hid, hid']

/-- Nor does a deletion. -/
lemma delete_eq_of_sameId (h : SameId text text') : m.delete text = m.delete text' := by
  obtain ⟨id, hid, hid'⟩ := h
  unfold delete
  rw [hid, hid']

variable [DataObject D P] {data data' : D}

/-- What a replacement needs does not depend on the spelling, but the refusal quotes it. -/
lemma replacement_alike (h : SameId text text') (data : D) :
    ResultsAlike (RecordError.Respelled text text') (m.replacement text data)
      (m.replacement text' data) := by
  obtain ⟨id, hid, hid'⟩ := h
  unfold replacement
  rw [hid, hid']
  dsimp only
  split
  · exact .error (.validation (.inl rfl))
  · exact .refl .same _

/-- Two replacements under one identifier are alike if what they need is. -/
lemma alike_replace_of_replacement
    (h : ResultsAlike (RecordError.Respelled text text') (m.replacement text data)
      (m.replacement text' data')) :
    (m.replace text data).Alike (RecordError.Respelled text text') (m.replace text' data') := by
  refine Operation.alike_bind (Operation.alike_ofResult h) ?_
  rintro ⟨id, version, entity⟩
  refine Operation.alike_bind (Operation.alike_refl .same _) fun _ => ?_
  refine Operation.alike_bind (Operation.alike_refl .same _) fun found => ?_
  cases found with
  | none => exact Operation.alike_throw (.notFound _)
  | some current =>
    dsimp only
    split
    · exact Operation.alike_throw (.conflict _ _)
    · refine Operation.alike_bind (Operation.alike_refl .same _) fun _ => ?_
      refine Operation.alike_bind (Operation.alike_refl .same _) fun updated => ?_
      cases updated with
      | none => exact Operation.alike_throw (.notFound _)
      | some d => exact Operation.alike_refl .same _

/-- A partial update does not depend on the spelling, but its refusals quote it. -/
lemma alike_patch (h : SameId text text') (update : P) :
    (m.patch text update).Alike (RecordError.Respelled text text') (m.patch text' update) := by
  unfold patch
  rw [lookup_eq_of_sameId h]
  refine Operation.alike_bind (Operation.alike_refl .same _) fun found => ?_
  cases found with
  | none => exact Operation.alike_refl .same _
  | some current =>
    refine Operation.alike_tryCatch (Operation.alike_map _ .same
      (alike_replace_of_replacement (replacement_alike h _))) fun e e' he => ?_
    -- a record that is missing is no error of a partial update, however it is quoted
    cases he with
    | same e => exact Operation.alike_refl .same _
    | notFound entity => exact Operation.alike_refl .same _
    | conflict entity reason => exact Operation.alike_throw (.conflict entity reason)
    | validation hother => exact Operation.alike_throw (.validation hother)

/-- Data objects that differ only in the spelling of the identifier have the same entity. -/
lemma entityOf_eq_of_respells (h : m.mapper.Respells data data') :
    m.entityOf data = m.entityOf data' := by
  unfold entityOf
  rw [h.entity_eq]

/-- An insertion does not depend on the spelling in the data object. -/
lemma insert_eq_of_respells (h : m.mapper.Respells data data') (fresh : Uuid) :
    m.insert data fresh = m.insert data' fresh := by
  obtain ⟨own, own', hown, hown', id, hid, hid'⟩ := h.sameId
  unfold insert
  rw [entityOf_eq_of_respells h, presetId_of_idOfText? hown hid, presetId_of_idOfText? hown' hid']

/-- A replacement by a data object that names another record is refused. -/
lemma replacement_of_other {id named : Uuid} {own : String} (hid : idOfText? text = some id)
    (hown : DataObject.id data = some own) (hnamed : idOfText? own = some named)
    (hne : named ≠ id) : m.replacement text data = .error (immutableId own text) := by
  have hother : (givenId? data).filter (fun text => idOfText? text ≠ some id) = some own :=
    Option.filter_eq_some_iff.mpr ⟨givenId?_of_idOfText? hown hnamed, by simpa [hnamed] using hne⟩
  unfold replacement
  rw [hid]
  dsimp only
  rw [hother]
  rfl

/-- What a replacement needs does not depend on the spelling in a data object that names no other
record. -/
lemma replacement_eq_of_respells (h : m.mapper.Respells data data') {own : String}
    (hown : DataObject.id data = some own) (hsame : SameId own text) :
    m.replacement text data = m.replacement text data' := by
  obtain ⟨first, own', hfirst, hown', named, hnamed, hnamed'⟩ := h.sameId
  obtain rfl := Option.some.inj (hown.symm.trans hfirst)
  obtain ⟨id, hid, htext⟩ := hsame
  obtain rfl := Option.some.inj (hid.symm.trans hnamed)
  have hversion : givenVersion? data = givenVersion? data' := by
    unfold givenVersion?
    rw [h.version_eq]
  rw [replacement_eq_of_namesNoOther htext (namesNoOther_of_idOfText? hown hnamed),
    replacement_eq_of_namesNoOther htext (namesNoOther_of_idOfText? hown' hnamed'), hversion,
    entityOf_eq_of_respells h]

/-- What a replacement needs does not depend on the spelling in the data object, but the refusal
quotes it. -/
lemma replacement_respells (h : m.mapper.Respells data data') (text : String) :
    ResultsAlike (RecordError.Respelled text text) (m.replacement text data)
      (m.replacement text data') := by
  obtain ⟨own, own', hown, hown', named, hnamed, hnamed'⟩ := h.sameId
  cases hid : idOfText? text with
  | none =>
    unfold replacement
    rw [hid]
    exact .error (.same _)
  | some id =>
    by_cases hne : named = id
    · subst hne
      rw [replacement_eq_of_respells h hown ⟨named, hnamed, hid⟩]
      exact .refl .same _
    · rw [replacement_of_other hid hown hnamed hne, replacement_of_other hid hown' hnamed' hne]
      exact .error (.validation (.inr ⟨named, hnamed, hnamed'⟩))

end Manager

end RecordGateway
