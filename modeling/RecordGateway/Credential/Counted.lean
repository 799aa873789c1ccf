import RecordGateway.Credential.Basic

/-!
# Counted tokens

A token source for trials: it hands out one and the same token, counts the requests, remembers
the last one, and can be told to fail a number of times.
-/

namespace RecordGateway

/-- A token source that counts the requests for its one token. -/
structure CountedTokens where
  token : String
  calls : Nat
  /-- The number of requests that are still to fail. -/
  failures : Nat
  /-- The mode of the last request, with everything that came with it. -/
  last : Option AuthMode
deriving DecidableEq

namespace CountedTokens

/-- The source of a token that nobody has asked for yet. -/
def ofToken (token : String) : CountedTokens := ⟨token, 0, 0, none⟩

/-- The source that fails the next `n` requests. -/
def failNext (t : CountedTokens) (n : Nat) : CountedTokens :=
  { t with failures := n }

/-- The assertion of the last request, if it was made on behalf of a caller. -/
def lastAssertion? (t : CountedTokens) : Option String :=
  match t.last with
  | some (.delegated assertion) => some assertion
  | _ => none

instance : TokenSource CountedTokens where
  acquire t _ mode :=
    ({ t with calls := t.calls + 1, failures := t.failures - 1, last := some mode },
      if 0 < t.failures then .error (.unavailable "identity provider down") else .ok ⟨t.token⟩)

end CountedTokens

end RecordGateway
