import RecordGateway.Script.Basic
import RecordGateway.Store.Calls

/-!
# Backends

What answers the requests of a script: a token source and a store.  In front of the store, faults
can be scheduled; a call that meets one is answered with the error of the fault and does not reach
the store.
-/

namespace RecordGateway

/-- The requests that a fault can be scheduled for. -/
inductive FaultPoint where
  | connect
  | call (kind : CallKind)
deriving DecidableEq

/-- An error that is due in place of the request of a kind after the next `skip` requests of that
kind. -/
structure Fault where
  before : FaultPoint
  skip : Nat
  error : StoreError
deriving DecidableEq

/-- A store, the faults scheduled in front of it, and a token source. -/
structure Backend (S : Type) where
  store : Store
  /-- The faults that are still to come, in the order of their scheduling. -/
  faults : List Fault
  tokens : S

/-- Whether a fault is due at a request of the given kind. -/
def Fault.isDue (point : FaultPoint) (f : Fault) : Bool :=
  f.before == point && f.skip == 0

/-- The fault with one request of the given kind less to wait for. -/
def Fault.wait (point : FaultPoint) (f : Fault) : Fault :=
  if f.before = point then { f with skip := f.skip - 1 } else f

namespace Backend

variable {S : Type}

/-- The backend with a fault scheduled. -/
def schedule (b : Backend S) (f : Fault) : Backend S :=
  { b with faults := b.faults ++ [f] }

/-- The backend at a request of the given kind: the first fault that is due is taken out, and the
others wait on. -/
def meet (b : Backend S) (point : FaultPoint) : Backend S × Option StoreError :=
  ({ b with faults := (b.faults.eraseP (·.isDue point)).map (·.wait point) },
    (b.faults.find? (·.isDue point)).map Fault.error)

/-- A request to the store, which a fault may keep from reaching it. -/
def call {α : Type} (b : Backend S) (point : FaultPoint)
    (f : Store → Store × Except StoreError α) : Backend S × Except StoreError α :=
  match b.meet point with
  | (b, some e) => (b, .error e)
  | (b, none) =>
    let (store, answer) := f b.store
    ({ b with store }, answer)

/-- The answer to a request. -/
def answer [TokenSource S] : (r : Request) → Backend S → Backend S × r.Answer
  | .token endpoint mode, b =>
    let (tokens, result) := TokenSource.acquire b.tokens endpoint mode
    ({ b with tokens }, result)
  | .connect token, b => b.call .connect fun s => s.connect token.secret
  | .create e fresh, b => b.call (.call .create) fun s => s.create e fresh
  | .retrieve logicalName id columns, b =>
    b.call (.call .retrieve) fun s => s.retrieve logicalName id columns
  | .retrieveMultiple q, b => b.call (.call .retrieveMultiple) fun s => s.retrieveMultiple q
  | .update e, b => b.call (.call .update) fun s => s.update e
  | .delete logicalName id, b => b.call (.call .delete) fun s => s.delete logicalName id

end Backend

end RecordGateway
