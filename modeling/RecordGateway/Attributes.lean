import RecordGateway.Value

/-!
# Attributes

The named values of a record: a finite map from attribute names to values, kept as a list that
is sorted by name.  The sorted list is unique, so two maps with the same look-ups are equal.
-/

namespace RecordGateway

/-- A finite map from attribute names to values. -/
structure Attributes where
  /-- The entries in the order of their names. -/
  entries : List (String × Value)
  sorted : entries.Pairwise (fun a b => a.1 < b.1)
deriving DecidableEq

namespace Attributes

/-- The map without entries. -/
def empty : Attributes where
  entries := []
  sorted := .nil

instance : Inhabited Attributes := ⟨empty⟩

/-- Puts an entry in its place in a sorted list, over an entry of the same name. -/
def insertEntry (name : String) (value : Value) : List (String × Value) → List (String × Value)
  | [] => [(name, value)]
  | (n, v) :: rest =>
    if name < n then (name, value) :: (n, v) :: rest
    else if name = n then (name, value) :: rest
    else (n, v) :: insertEntry name value rest

/-- Two names that are neither equal nor in order stand in the opposite order. -/
theorem lt_of_not_lt_of_ne {a b : String} (h : ¬a < b) (hne : a ≠ b) : b < a := by
  rcases String.le_total a b with hab | hab
  · exact absurd (String.le_antisymm hab (String.not_lt.mp h)) hne
  · exact String.not_le.mp fun hab' => hne (String.le_antisymm hab' hab)

/-- An entry after an insertion is the new one, or it was there before. -/
theorem mem_insertEntry {name : String} {value : Value} {e : String × Value} :
    ∀ {l : List (String × Value)}, e ∈ insertEntry name value l → e = (name, value) ∨ e ∈ l
  | [], h => by simpa [insertEntry] using h
  | (n, v) :: rest, h => by
    simp only [insertEntry] at h
    split at h
    · simpa using h
    · split at h
      · rcases List.mem_cons.mp h with h | h
        · exact .inl h
        · exact .inr (List.mem_cons_of_mem _ h)
      · rcases List.mem_cons.mp h with h | h
        · exact .inr (h ▸ List.mem_cons_self)
        · exact (mem_insertEntry h).imp id (List.mem_cons_of_mem _)

/-- An insertion keeps the entries in the order of their names. -/
theorem sorted_insertEntry {name : String} {value : Value} :
    ∀ {l : List (String × Value)}, l.Pairwise (fun a b => a.1 < b.1) →
      (insertEntry name value l).Pairwise (fun a b => a.1 < b.1)
  | [], _ => by simp [insertEntry]
  | (n, v) :: rest, h => by
    obtain ⟨hhead, htail⟩ := List.pairwise_cons.mp h
    simp only [insertEntry]
    split
    · rename_i hlt
      refine List.pairwise_cons.mpr ⟨fun e he => ?_, h⟩
      rcases List.mem_cons.mp he with he | he
      · exact he ▸ hlt
      · exact String.lt_trans hlt (hhead e he)
    · split
      · rename_i heq
        exact List.pairwise_cons.mpr ⟨fun e he => heq ▸ hhead e he, htail⟩
      · rename_i hlt hne
        refine List.pairwise_cons.mpr ⟨fun e he => ?_, sorted_insertEntry htail⟩
        rcases mem_insertEntry he with he | he
        · exact he ▸ lt_of_not_lt_of_ne hlt hne
        · exact hhead e he

/-- The map with one entry set. -/
def set (as : Attributes) (name : String) (value : Value) : Attributes where
  entries := insertEntry name value as.entries
  sorted := sorted_insertEntry as.sorted

/-- The value of an attribute. -/
def get? (as : Attributes) (name : String) : Option Value :=
  as.entries.lookup name

/-- The map restricted to the names that satisfy `p`. -/
def restrict (as : Attributes) (p : String → Bool) : Attributes where
  entries := as.entries.filter fun e => p e.1
  sorted := as.sorted.filter _

/-- The map without one entry. -/
def remove (as : Attributes) (name : String) : Attributes :=
  as.restrict (· != name)

/-- The names in order. -/
def names (as : Attributes) : List String :=
  as.entries.map (·.1)

/-- The map with a list of entries set one after the other. -/
def setAll (as : Attributes) (entries : List (String × Value)) : Attributes :=
  entries.foldl (fun as e => as.set e.1 e.2) as

/-- The map of a list of entries; of entries with one name the last counts. -/
def ofList (entries : List (String × Value)) : Attributes :=
  empty.setAll entries

/-- After an insertion the new value is found under its name, and under other names what was found
before. -/
theorem lookup_insertEntry (name n : String) (value : Value) :
    ∀ l : List (String × Value),
      (insertEntry name value l).lookup n = if n = name then some value else l.lookup n
  | [] => by
    by_cases h : n = name
    · simp [insertEntry, h]
    · simp [insertEntry, List.lookup_cons, h, beq_eq_false_iff_ne.mpr h]
  | (m, v) :: rest => by
    have ih := lookup_insertEntry name n value rest
    simp only [insertEntry]
    split
    · by_cases h : n = name
      · simp [h]
      · simp [List.lookup_cons, h, beq_eq_false_iff_ne.mpr h]
    · split
      · rename_i heq
        subst heq
        by_cases h : n = name
        · simp [h]
        · simp [List.lookup_cons, h, beq_eq_false_iff_ne.mpr h]
      · rename_i hne
        by_cases hm : n = m
        · subst hm
          simp [Ne.symm hne]
        · simp [List.lookup_cons, beq_eq_false_iff_ne.mpr hm, ih]

/-- Setting an entry changes what its name looks up and nothing else. -/
theorem get?_set (as : Attributes) (name n : String) (value : Value) :
    (as.set name value).get? n = if n = name then some value else as.get? n :=
  lookup_insertEntry name n value as.entries

end Attributes

end RecordGateway
