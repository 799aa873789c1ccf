import RecordGateway.Credential.Basic

/-!
# Fixed tokens

A token source that knows one token for each of some modes.  If it passes assertions through, it
answers a request on behalf of a caller with the caller's own token, unless there is a fixed one.
-/

namespace RecordGateway

/-- Tokens that are known beforehand. -/
structure FixedTokens where
  delegated : Option String
  serviceIdentity : Option String
  application : Option String
  /-- Whether the token of a caller may serve as the access token. -/
  passThrough : Bool
deriving DecidableEq

namespace FixedTokens

/-- No tokens at all. -/
def none : FixedTokens := ⟨.none, .none, .none, false⟩

/-- The token known for a mode. -/
def token? (t : FixedTokens) : AuthModeKind → Option String
  | .delegated => t.delegated
  | .serviceIdentity => t.serviceIdentity
  | .application => t.application

/-- The tokens with another one for a mode. -/
def set (t : FixedTokens) (mode : AuthModeKind) (token : String) : FixedTokens :=
  match mode with
  | .delegated => { t with delegated := some token }
  | .serviceIdentity => { t with serviceIdentity := some token }
  | .application => { t with application := some token }

/-- The tokens with assertions passed through. -/
def passingThrough (t : FixedTokens) : FixedTokens :=
  { t with passThrough := true }

/-- The token for a mode. -/
def tokenFor (t : FixedTokens) (mode : AuthMode) : Except CredentialError AccessToken :=
  match t.token? mode.kind, mode with
  | some token, _ => .ok ⟨token⟩
  | .none, .delegated assertion =>
    if t.passThrough then .ok ⟨assertion⟩ else .error (.unsupportedMode .delegated)
  | .none, _ => .error (.unsupportedMode mode.kind)

instance : TokenSource FixedTokens where
  acquire t _ mode := (t, t.tokenFor mode)

/-! ### Fixed tokens as JSON -/

/-- The names of the members. -/
def memberNames : List String :=
  ["delegated", "service_identity", "application", "pass_through_assertion"]

/-- The tokens with the given contents. -/
def ofMembers? (delegated serviceIdentity application passThrough : Option Json) :
    Option FixedTokens := do
  return {
    delegated := ← Json.optional? Json.asString? delegated
    serviceIdentity := ← Json.optional? Json.asString? serviceIdentity
    application := ← Json.optional? Json.asString? application
    passThrough := ← match passThrough with
      | .none => some false
      | some j => j.asBool? }

/-- Reads tokens from an object without any other members, or from an array of the first few
contents; what is missing has its default. -/
def ofJson? : Json → Option FixedTokens
  | .array items =>
    if items.length ≤ 4 then ofMembers? items[0]? items[1]? items[2]? items[3]? else .none
  | .object members =>
    if members.all fun m => memberNames.contains m.1 then
      let member (name : String) := (Json.object members).member? name
      ofMembers? (member "delegated") (member "service_identity") (member "application")
        (member "pass_through_assertion")
    else .none
  | _ => .none

end FixedTokens

end RecordGateway
