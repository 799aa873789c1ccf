import RecordGateway.Credential.Basic
import RecordGateway.Http.Status
import RecordGateway.Json.Reader

/-!
# Token replies

What comes back from a token endpoint, and what it means: a successful reply carries a token and
maybe its lifetime, a server error means that the provider is unavailable, and every other reply
is a refusal, with a reason if the body gives one.
-/

namespace RecordGateway

/-- What comes back from a token endpoint. -/
inductive TokenReply where
  /-- The connection was closed without an answer. -/
  | noAnswer
  | answered (status : Nat) (body : String)
deriving DecidableEq

/-- A token as it is issued. -/
structure IssuedToken where
  token : AccessToken
  /-- The number of seconds for which the token is valid, if the provider tells. -/
  lifetime : Option Nat
deriving DecidableEq

namespace TokenReply

/-- The member of an object with a name, unless the object has several of them. -/
def onlyMember? (members : List (String × Json)) (name : String) : Option (Option Json) :=
  match members.filter (·.1 = name) with
  | [] => some none
  | [m] => some (some m.2)
  | _ => none

/-- The contents of two members, by position in an array or by name in an object. -/
def twoMembers? (first second : String) : Json → Option (Option Json × Option Json)
  | .array [a, b] => some (some a, some b)
  | .object members => do
    return (← onlyMember? members first, ← onlyMember? members second)
  | _ => none

/-- The token in the body of a successful reply. -/
def issued? (body : String) : Option IssuedToken := do
  let (token, lifetime) ← twoMembers? "access_token" "expires_in" (← Json.ofText? body)
  return ⟨⟨← (← token).asString?⟩, ← Json.optional? (Json.naturalBelow? UInt64.size) lifetime⟩

/-- The reason in the body of a refusal. -/
def reason? (body : String) : Option String := do
  let (error, description) ← twoMembers? "error" "error_description" (← Json.ofText? body)
  let error ← (← error).asString?
  match ← Json.optional? Json.asString? description with
  | some description => return s!"{error}: {description}"
  | none => return error

/-- The token that a reply brings to a request which was sent to `url`. -/
def result (url : Url) : TokenReply → Except CredentialError IssuedToken
  | noAnswer => .error (.unavailable
      ("token request failed: error sending request for url (" ++ url.toText ++ ")"))
  | answered status body =>
    if Http.isSuccess status then match issued? body with
      | some token => .ok token
      | none => .error
          (.internal "failed to parse token response: error decoding response body")
    else
      let statusReason := "token endpoint returned " ++ Http.statusText status
      if Http.isServerError status then .error (.unavailable statusReason)
      else .error (.unauthorized ((reason? body).getD statusReason))

end TokenReply

end RecordGateway
