import RecordGateway.Proofs.Script.Runs

/-!
# Outcomes of operations

What an operation leads to that has a backend to itself, step by step: the outcome of a sequence is
the outcome of its second part in the scope and with the backend that the first one leaves.
-/

namespace RecordGateway

namespace Operation

variable {S α β ε : Type} [TokenSource S] {x : Operation α} {scope scope' scope'' : RequestScope}
  {b b' b'' : Backend S}

/-- A value is the outcome of itself. -/
@[simp] lemma outcome_pure (a : α) : (pure a : Operation α).outcome scope b = (b, .ok a, scope) :=
  rfl

/-- An error is the outcome of itself. -/
@[simp] lemma outcome_throw (e : RecordError) :
    (throw e : Operation α).outcome scope b = (b, .error e, scope) :=
  rfl

/-- A result that is at hand is the outcome, with its error translated. -/
@[simp] lemma outcome_ofExcept (f : ε → RecordError) (y : Except ε α) :
    (ofExcept f y).outcome scope b = (b, y.mapError f, scope) := by
  cases y <;> rfl

/-- The outcome of a sequence of operations. -/
lemma outcome_bind (x : Operation α) (f : α → Operation β) (scope : RequestScope)
    (b : Backend S) : (x >>= f).outcome scope b = match x.outcome scope b with
      | (b', .ok a, scope') => (f a).outcome scope' b'
      | (b', .error e, scope') => (b', .error e, scope') := by
  unfold outcome
  rw [inScope_bind, Script.run_bind]
  rcases (x.inScope scope).run Backend.answer b with ⟨b', result, scope'⟩
  cases result <;> rfl

/-- A sequence of operations goes on from the outcome of the first one if it succeeds. -/
lemma outcome_bind_of_ok {f : α → Operation β} {a : α}
    (h : x.outcome scope b = (b', .ok a, scope')) :
    (x >>= f).outcome scope b = (f a).outcome scope' b' := by
  rw [outcome_bind, h]

/-- The handler of an operation that is caught runs if the operation fails. -/
lemma inScope_tryCatch (x : Operation α) (handle : RecordError → Operation α)
    (scope : RequestScope) : (tryCatch x handle).inScope scope =
      x.inScope scope >>= fun result => match result.1 with
        | .ok a => .done (.ok a, result.2)
        | .error e => (handle e).inScope result.2 := by
  refine congrArg (x.inScope scope >>= ·) (funext fun ⟨result, scope'⟩ => ?_)
  cases result <;> rfl

/-- The outcome of an operation that is caught. -/
lemma outcome_tryCatch (x : Operation α) (handle : RecordError → Operation α) :
    (tryCatch x handle).outcome scope b = match x.outcome scope b with
      | (b', .ok a, scope') => (b', .ok a, scope')
      | (b', .error e, scope') => (handle e).outcome scope' b' := by
  unfold outcome
  rw [inScope_tryCatch, Script.run_bind]
  rcases (x.inScope scope).run Backend.answer b with ⟨b', result, scope'⟩
  cases result <;> rfl

/-- A sequence succeeds if both parts do. -/
lemma outcome_bind_eq_ok {f : α → Operation β} {c : β} :
    (x >>= f).outcome scope b = (b'', .ok c, scope'') ↔ ∃ b' a scope',
      x.outcome scope b = (b', .ok a, scope') ∧
      (f a).outcome scope' b' = (b'', .ok c, scope'') := by
  constructor
  · intro h
    rw [outcome_bind] at h
    rcases hx : x.outcome scope b with ⟨b', result, scope'⟩
    rw [hx] at h
    cases result with
    | ok a => exact ⟨b', a, scope', rfl, h⟩
    | error e => cases h
  · rintro ⟨b', a, scope', hx, hf⟩
    rw [outcome_bind_of_ok hx, hf]

/-- A script as an operation succeeds and leaves the scope as it is. -/
lemma inScope_lift (s : Script α) (scope : RequestScope) :
    (liftM s : Operation α).inScope scope = s >>= fun a => .done (.ok a, scope) :=
  Script.bind_assoc s (fun a => .done (a, scope)) fun result => .done (Except.ok result.1, result.2)

/-- The outcome of a script. -/
lemma outcome_lift (s : Script α) : (liftM s : Operation α).outcome scope b =
    ((s.run Backend.answer b).1, .ok (s.run Backend.answer b).2, scope) := by
  unfold outcome
  rw [inScope_lift, Script.run_bind]
  rfl

/-- The outcome of a script whose result may be an error. -/
@[simp] lemma outcome_ofScript (f : ε → RecordError) (s : Script (Except ε α)) :
    (ofScript f s).outcome scope b =
      ((s.run Backend.answer b).1, (s.run Backend.answer b).2.mapError f, scope) := by
  unfold ofScript
  rw [outcome_bind_of_ok (outcome_lift s), outcome_ofExcept]

end Operation

end RecordGateway
