import RecordGateway.Credential.Basic
import RecordGateway.NativeQuery
import RecordGateway.Entity
import RecordGateway.Store.Error

/-!
# Scripts

What an operation does with the outside, request by request.  A script is finished with a result,
or it asks one request and goes on in a way that depends on the answer.  Each request is carried
out as a whole, so several scripts that share a store are interleaved at their requests and
nowhere else.
-/

namespace RecordGateway

/-- What a script can ask of the outside. -/
inductive Request where
  /-- An access token for an endpoint. -/
  | token (endpoint : Url) (mode : AuthMode)
  /-- A session with the store. -/
  | connect (token : AccessToken)
  /-- A new record, under the identifier `fresh` if the entity has none of its own. -/
  | create (entity : Entity) (fresh : Uuid)
  | retrieve (logicalName : String) (id : Uuid) (columns : ColumnSet)
  | retrieveMultiple (query : NativeQuery)
  | update (entity : Entity)
  | delete (logicalName : String) (id : Uuid)

/-- What a request is answered with. -/
abbrev Request.Answer : Request → Type
  | token _ _ => Except CredentialError AccessToken
  | connect _ => Except StoreError Unit
  | create _ _ => Except StoreError Uuid
  | retrieve _ _ _ => Except StoreError (Option Entity)
  | retrieveMultiple _ => Except StoreError (List Entity)
  | update _ => Except StoreError Unit
  | delete _ _ => Except StoreError Bool

/-- A computation that asks requests. -/
inductive Script (α : Type) where
  | done (result : α)
  | ask (request : Request) (next : request.Answer → Script α)

namespace Script

variable {α β σ : Type}

/-- A script followed by another one that depends on its result. -/
def bind : Script α → (α → Script β) → Script β
  | done a, f => f a
  | ask r next, f => ask r fun answer => (next answer).bind f

instance : Monad Script where
  pure := done
  bind := bind

/-- The script of one request, whose result is the answer. -/
def perform (r : Request) : Script r.Answer :=
  ask r done

/-- The outcome of a script when `answer` answers each request in the state that the requests
before have left. -/
def run (answer : (r : Request) → σ → σ × r.Answer) : Script α → σ → σ × α
  | done a, s => (s, a)
  | ask r next, s =>
    let (s, reply) := answer r s
    (next reply).run answer s

/-- A value is a script that is done. -/
@[simp] theorem pure_eq_done (a : α) : (pure a : Script α) = done a := rfl

/-- A script that is done hands on its value. -/
@[simp] theorem done_bind (a : α) (f : α → Script β) : (done a >>= f) = f a := rfl

/-- A script that asks goes on with its sequel after the answer. -/
@[simp] theorem ask_bind (r : Request) (next : r.Answer → Script α) (f : α → Script β) :
    (ask r next >>= f) = ask r fun answer => next answer >>= f := rfl

/-- A sequel that only returns the value changes nothing. -/
@[simp] theorem bind_done (x : Script α) : (x >>= fun a => done a) = x := by
  induction x with
  | done a => rfl
  | ask r next ih =>
    rw [ask_bind]
    exact congrArg (ask r) (funext ih)

/-- It does not matter how a sequence of scripts is bracketed. -/
theorem bind_assoc {γ : Type} (x : Script α) (f : α → Script β) (g : β → Script γ) :
    (x >>= f) >>= g = x >>= fun a => f a >>= g := by
  induction x with
  | done a => rfl
  | ask r next ih =>
    simp only [ask_bind]
    exact congrArg (ask r) (funext ih)

instance : LawfulMonad Script :=
  LawfulMonad.mk' Script bind_done (fun _ _ => rfl) bind_assoc

/-- A sequence of scripts runs one after the other. -/
theorem run_bind (answer : (r : Request) → σ → σ × r.Answer) (x : Script α)
    (f : α → Script β) (s : σ) :
    (x >>= f).run answer s = (f (x.run answer s).2).run answer (x.run answer s).1 := by
  induction x generalizing s with
  | done a => rfl
  | ask r next ih => exact ih _ _

end Script

end RecordGateway
