import RecordGateway.Data.Kind
import RecordGateway.Proofs.Store.Versions

/-!
# Data objects and their entities

What a mapper makes of an entity that a data object was turned into: the data object again, with
the identifier and the version of the entity in place of its own.  The entity may have been stored
meanwhile among other attributes; only those of the data object count.
-/

namespace RecordGateway

/-! ### Values of fields -/

namespace Value

/-- A text is read as itself. -/
@[simp] lemma asString?_string (s : String) : (string s).asString? = some s := rfl

/-- The string in the value of an optional field. -/
@[simp] lemma asString?_ofOption (o : Option String) : (ofOption string o).asString? = o := by
  cases o <;> rfl

/-- The integer in the value of an optional field. -/
@[simp] lemma asInt?_ofOption (o : Option Int64) : (ofOption int o).asInt? = o := by
  cases o <;> rfl

end Value

/-! ### Kinds -/

namespace RecordKind

variable {k : RecordKind} {d : k.Data} {e : Entity}

/-- A data object has the identifier and the version of the entity that it is made of. -/
lemma id_version_of_toData {id : Uuid} (h : k.mapper.toData e = .ok d) (hid : e.id = some id) :
    DataObject.id d = some id.toText ∧ DataObject.version d = e.rowVersion := by
  cases k with
  | account =>
    change Account.ofEntity e = .ok d at h
    unfold Account.ofEntity at h
    rw [hid] at h
    cases hname : e.getString? "name" with
    | none => rw [hname] at h; cases h
    | some name =>
      rw [hname] at h
      cases h
      exact ⟨rfl, rfl⟩
  | contact =>
    cases h
    exact ⟨congrArg (Option.map Uuid.toText) hid, rfl⟩

/-- The entity of a data object has nothing in the attribute that holds the identifier. -/
lemma ne_primaryAttribute_of_get? (h : k.mapper.toEntity d = .ok e) {name : String} {value : Value}
    (hvalue : e.get? name = some value) : name ≠ primaryAttribute e.logicalName := by
  have hnone : e.get? (primaryAttribute e.logicalName) = none := by
    cases k with
    | account =>
      change Account.toEntity d = .ok e at h
      unfold Account.toEntity at h
      split at h
      · cases h
      · cases h
        rfl
    | contact =>
      cases h
      rfl
  rintro rfl
  cases hnone.symm.trans hvalue

end RecordKind

end RecordGateway
