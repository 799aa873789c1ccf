import RecordGateway.Proofs.Records.Openings
import RecordGateway.Proofs.Script.Outcomes

/-!
# Undisturbed operations

What operations lead to while nothing comes in between: no other writer is about to act, no fault is
scheduled, writing is enabled, and a session is open or can be opened.  Then the result and the
records that are left depend on the records alone, and another operation may follow.
-/

namespace RecordGateway

namespace Store

/-- Whether no other writer is about to act and writing is enabled. -/
structure Calm (s : Store) : Prop where
  pending_eq : s.pending = []
  writable : s.rejectWrites = false

/-- At the start of a call nothing happens to a calm store. -/
lemma Calm.enter_eq {s : Store} (h : s.Calm) (kind : CallKind) :
    s.enter kind = { s with counts := s.counts.count kind } := by
  obtain ⟨records, lastVersion, counts, tokensSeen, rejectWrites, pending⟩ := s
  obtain rfl : pending = [] := h.pending_eq
  rfl

end Store

namespace Operation

variable {α β : Type}

section Steps

variable {S : Type} [TokenSource S] {settings : ConnectionSettings} {s s' s'' : Store}

end Steps

end Operation

namespace Session

variable {S : Type} [TokenSource S] {settings : ConnectionSettings} {s : Store}

end Session

/-! ### Operations of a manager -/

namespace Manager

variable {D P S : Type} [TokenSource S] {settings : ConnectionSettings} {m : Manager D}
  {s s' : Store}

/-- How a record of a store reads: not at all, or as its data object, unless it has none. -/
def reading (m : Manager D) (s : Store) (id : Uuid) : Except RecordError (Option D) :=
  match s.snapshot m.logicalName id with
  | none => .ok none
  | some e => (m.dataOf e).map some

/-- When a record reads as a data object. -/
lemma reading_eq_some {id : Uuid} {d : D} :
    m.reading s id = .ok (some d) ↔ ∃ r, s.find? m.logicalName id = some r ∧
      m.mapper.toData (r.toEntity .all) = .ok d := by
  unfold reading Store.snapshot
  cases s.find? m.logicalName id with
  | none => simp
  | some r =>
    simp only [Option.map_some, Option.some.injEq, exists_eq_left', ← dataOf_eq_ok]
    cases m.dataOf (r.toEntity .all) <;> simp [Except.map]

section Writes

variable [DataObject D P] {data d : D} {id : Uuid} {entity : Entity}

end Writes

end Manager

end RecordGateway
