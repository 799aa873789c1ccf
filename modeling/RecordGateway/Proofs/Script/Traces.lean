import Mathlib.Data.Option.Basic
import Mathlib.Tactic.Lemma
import RecordGateway.Records.Session

/-!
# Traces of scripts

A script is judged by the requests that it asks and by the answers that it has got.  A contract
says which request may follow which history, and what holds of the whole history and the result in
the end; it says nothing about who answers.  Contracts pass through the steps of an operation, so
that each operation has one contract from which everything about its runs follows.
-/

namespace RecordGateway

/-- Another reason for a failure does not make it a success. -/
lemma mapError_eq_ok {ε ε' α : Type} {x : Except ε α} {f : ε → ε'} {a : α} :
    x.mapError f = .ok a ↔ x = .ok a := by
  cases x <;> simp [Except.mapError]

/-- A request with its answer. -/
structure Reply where
  request : Request
  answer : request.Answer

/-- The entity of an update that the store has applied. -/
def Reply.updated? : Reply → Option Entity
  | ⟨.update e, .ok ()⟩ => some e
  | _ => none

/-- The only reply to an update that has been applied. -/
lemma Reply.updated?_eq_some {x : Reply} {e : Entity} :
    x.updated? = some e ↔ x = ⟨.update e, .ok ()⟩ := by
  unfold updated?
  split
  · simp
  · rename_i h
    exact ⟨fun hnone => absurd hnone (by simp), fun hx => absurd hx (h e)⟩

/-! ### Requests and histories -/

namespace Request

/-- Whether a request belongs to the opening of a session. -/
def opensSession : Request → Bool
  | token _ _ => true
  | connect _ => true
  | _ => false

/-- Whether a request reads all columns of a record. -/
def readsWhole : Request → Bool
  | retrieve _ _ .all => true
  | _ => false

/-- Whether a request only opens a session or reads a record. -/
def looks : Request → Bool
  | retrieve _ _ _ => true
  | r => r.opensSession

/-- Whether a request looks without reading a record whole. -/
def probes (r : Request) : Bool :=
  r.looks && !r.readsWhole

/-- To open a session is to look. -/
lemma looks_of_opensSession {r : Request} (h : r.opensSession = true) : r.looks = true := by
  cases r <;> first | rfl | exact h

/-- A request that only looks is no update. -/
lemma ne_update_of_looks {r : Request} (h : r.looks = true) (e : Entity) : r ≠ update e := by
  rintro rfl
  cases h

/-- To open a session is to look without reading a record. -/
lemma probes_of_opensSession {r : Request} (h : r.opensSession = true) : r.probes = true := by
  cases r <;> first | rfl | cases h

end Request

/-- A history and a longer one whose new requests are all of a kind. -/
def Extends (kind : Request → Bool) (history history' : List Reply) : Prop :=
  ∃ new, history' = history ++ new ∧ ∀ x ∈ new, kind x.request = true

namespace Extends

variable {kind kind' : Request → Bool} {history history' history'' : List Reply}

/-- A history extends itself by no requests. -/
lemma refl : Extends kind history history :=
  ⟨[], by simp, by simp⟩

/-- An extension goes on with a further request of the kind. -/
lemma snoc {x : Reply} (h : Extends kind history history') (hx : kind x.request = true) :
    Extends kind history (history' ++ [x]) := by
  obtain ⟨new, rfl, hnew⟩ := h
  refine ⟨new ++ [x], by simp, fun y hy => ?_⟩
  rcases List.mem_append.mp hy with hy | hy
  · exact hnew y hy
  · exact List.mem_singleton.mp hy ▸ hx

/-- A kind of request may be replaced by a wider one. -/
lemma mono (h : Extends kind history history')
    (hkind : ∀ r, kind r = true → kind' r = true) : Extends kind' history history' := by
  obtain ⟨new, rfl, hnew⟩ := h
  exact ⟨new, rfl, fun x hx => hkind _ (hnew x hx)⟩

end Extends

/-! ### Contracts -/

namespace Script

variable {α β : Type} {asks asks' : List Reply → Request → Prop}

/-- Whether a script with a history keeps a contract: `asks` holds of each request and the history
before it, and `post` of the history and the result in the end. -/
def Keeps (asks : List Reply → Request → Prop) (post : List Reply → α → Prop) :
    Script α → List Reply → Prop
  | done a, history => post history a
  | ask r next, history => asks history r ∧
    ∀ answer, (next answer).Keeps asks post (history ++ [⟨r, answer⟩])

/-- A sequence of scripts keeps a contract if the second one does after every outcome of the
first. -/
lemma keeps_bind {x : Script α} {f : α → Script β} {post : List Reply → β → Prop}
    {history : List Reply} :
    (x >>= f).Keeps asks post history ↔
      x.Keeps asks (fun history a => (f a).Keeps asks post history) history := by
  induction x generalizing history with
  | done a => rfl
  | ask r next ih => exact and_congr_right fun _ => forall_congr' fun answer => ih answer

/-- A contract may be weakened. -/
lemma Keeps.imp {x : Script α} {post post' : List Reply → α → Prop} {history : List Reply}
    (h : x.Keeps asks post history) (hasks : ∀ history r, asks history r → asks' history r)
    (hpost : ∀ history a, post history a → post' history a) : x.Keeps asks' post' history := by
  induction x generalizing history with
  | done a => exact hpost _ _ h
  | ask r next ih => exact ⟨hasks _ _ h.1, fun answer => ih answer (h.2 answer)⟩

/-- One request keeps a contract that allows it. -/
lemma keeps_perform {r : Request} {post : List Reply → r.Answer → Prop} {history : List Reply}
    (hask : asks history r) (hpost : ∀ answer, post (history ++ [⟨r, answer⟩]) answer) :
    (perform r).Keeps asks post history :=
  ⟨hask, hpost⟩

end Script

namespace Operation

variable {α β ε : Type} {asks : List Reply → Request → Prop} {history : List Reply}

/-- Whether an operation with a history keeps a contract in every scope. -/
def Keeps (asks : List Reply → Request → Prop) (post : List Reply → Except RecordError α → Prop)
    (x : Operation α) (history : List Reply) : Prop :=
  ∀ scope, (x.inScope scope).Keeps asks (fun history result => post history result.1) history

section Steps

variable {post : List Reply → Except RecordError α → Prop}

/-- An operation that asks nothing keeps a contract if its value is allowed now. -/
lemma keeps_pure {a : α} (h : post history (.ok a)) :
    (pure a : Operation α).Keeps asks post history :=
  fun _ => h

/-- An operation that fails at once keeps a contract if its error is allowed now. -/
lemma keeps_throw {e : RecordError} (h : post history (.error e)) :
    (throw e : Operation α).Keeps asks post history :=
  fun _ => h

/-- A result that is at hand keeps a contract if it is allowed now. -/
lemma keeps_ofExcept {f : ε → RecordError} {x : Except ε α} (h : post history (x.mapError f)) :
    (ofExcept f x).Keeps asks post history := by
  cases x with
  | ok a => exact keeps_pure h
  | error e => exact keeps_throw h

/-- A sequence of operations: the second one runs unless the first one fails. -/
lemma keeps_bind {x : Operation β} {f : β → Operation α}
    (mid : List Reply → Except RecordError β → Prop) (hx : x.Keeps asks mid history)
    (hok : ∀ history b, mid history (.ok b) → (f b).Keeps asks post history)
    (herror : ∀ history e, mid history (.error e) → post history (.error e)) :
    (x >>= f).Keeps asks post history := by
  intro scope
  refine Script.keeps_bind.mpr ((hx scope).imp (fun _ _ h => h) fun history result h => ?_)
  obtain ⟨result, scope'⟩ := result
  cases result with
  | ok b => exact hok history b h scope'
  | error e => exact herror history e h

/-- An operation that is caught: the handler runs if it fails. -/
lemma keeps_tryCatch {x : Operation α} {handle : RecordError → Operation α}
    (mid : List Reply → Except RecordError α → Prop) (hx : x.Keeps asks mid history)
    (hok : ∀ history a, mid history (.ok a) → post history (.ok a))
    (herror : ∀ history e, mid history (.error e) → (handle e).Keeps asks post history) :
    (tryCatch x handle).Keeps asks post history := by
  intro scope
  refine Script.keeps_bind.mpr ((hx scope).imp (fun _ _ h => h) fun history result h => ?_)
  obtain ⟨result, scope'⟩ := result
  cases result with
  | ok a => exact hok history a h
  | error e => exact herror history e h scope'

/-- A script whose result may be an error. -/
lemma keeps_ofScript {f : ε → RecordError} {x : Script (Except ε α)}
    (h : x.Keeps asks (fun history result => post history (result.mapError f)) history) :
    (ofScript f x).Keeps asks post history := by
  intro scope
  -- lifting a script twice puts its result into a pair with the scope, step by step
  refine Script.keeps_bind.mpr (Script.keeps_bind.mpr ?_)
  refine Script.keeps_bind (x := x) (f := fun a => .done (a, scope)).mpr
    (h.imp (fun _ _ h => h) fun history result h => ?_)
  cases result with
  | ok a => exact h
  | error e => exact h

/-- A function of the result of an operation. -/
lemma keeps_map {x : Operation β} {f : β → α}
    (h : x.Keeps asks (fun history result => post history (result.map f)) history) :
    (f <$> x).Keeps asks post history := by
  intro scope
  refine Script.keeps_bind.mpr ((h scope).imp (fun _ _ h => h) fun history result h => ?_)
  obtain ⟨result, scope'⟩ := result
  cases result with
  | ok b => exact h
  | error e => exact h

/-- A step that looks at the scope. -/
lemma keeps_get_bind {f : RequestScope → Operation α}
    (h : ∀ scope, (f scope).Keeps asks post history) :
    ((get : Operation RequestScope) >>= f).Keeps asks post history :=
  fun scope => h scope scope

/-- A contract of an operation may be weakened. -/
lemma Keeps.imp {x : Operation α} {post' : List Reply → Except RecordError α → Prop}
    {asks' : List Reply → Request → Prop} (h : x.Keeps asks post history)
    (hasks : ∀ history r, asks history r → asks' history r)
    (hpost : ∀ history result, post history result → post' history result) :
    x.Keeps asks' post' history :=
  fun scope => (h scope).imp hasks fun _ _ => hpost _ _

end Steps

/-- To change the scope is to ask nothing. -/
lemma keeps_set {scope : RequestScope} {post : List Reply → Except RecordError Unit → Prop}
    (h : post history (.ok ())) : (set scope : Operation Unit).Keeps asks post history :=
  fun _ => h

/-- One request, whose result is the answer. -/
lemma keeps_lift {r : Request} {post : List Reply → Except RecordError r.Answer → Prop}
    (hask : asks history r) (hpost : ∀ answer, post (history ++ [⟨r, answer⟩]) (.ok answer)) :
    (liftM (Script.perform r) : Operation r.Answer).Keeps asks post history := by
  intro scope
  refine Script.keeps_bind.mpr ?_
  refine Script.keeps_bind (x := .perform r) (f := fun answer => .done (answer, scope)).mpr ?_
  exact Script.keeps_perform hask hpost

/-! ### Requests of a kind -/

/-- Whether an operation asks only requests of a kind, whatever the answers are. -/
def Asks (kind : Request → Prop) (x : Operation α) : Prop :=
  ∀ history, x.Keeps (fun _ => kind) (fun _ _ => True) history

section Asks

variable {kind : Request → Prop}

/-- A value asks nothing. -/
lemma asks_pure (a : α) : (pure a : Operation α).Asks kind :=
  fun _ => keeps_pure trivial

/-- An error asks nothing. -/
lemma asks_throw (e : RecordError) : (throw e : Operation α).Asks kind :=
  fun _ => keeps_throw trivial

/-- A result that is at hand asks nothing. -/
lemma asks_ofExcept (f : ε → RecordError) (x : Except ε α) : (ofExcept f x).Asks kind :=
  fun _ => keeps_ofExcept trivial

/-- A sequence of operations asks only what its parts ask. -/
lemma asks_bind {x : Operation β} {f : β → Operation α} (hx : x.Asks kind)
    (hf : ∀ b, (f b).Asks kind) : (x >>= f).Asks kind :=
  fun _ => keeps_bind _ (hx _) (fun _ b _ => hf b _) fun _ _ _ => trivial

/-- A request of the kind. -/
lemma asks_lift {r : Request} (h : kind r) :
    (liftM (Script.perform r) : Operation r.Answer).Asks kind :=
  fun _ => keeps_lift h fun _ => trivial

end Asks

end Operation

end RecordGateway
