import RecordGateway.Clock
import RecordGateway.Grant.Form
import RecordGateway.Grant.Reply

/-!
# Granted tokens

A client keeps the tokens of applications and service accounts, one for each mode and resource,
until a minute before they expire.  Tokens on behalf of a caller belong to that caller and are
never kept.

A request for a token has two steps.  The first one finds the token among those that are kept, or
a reason to refuse the request, or the form that has to be sent; the second one takes the reply
to that form.
-/

namespace RecordGateway

/-- A token that is kept, and when it stops being used. -/
structure KeptToken where
  token : AccessToken
  expiresAt : Moment
deriving DecidableEq

/-- What a kept token is found under: a mode, and an endpoint without the slashes at its end. -/
abbrev TokenKey := AuthModeKind × String

/-- A client and the tokens that it keeps. -/
structure GrantCache where
  client : GrantClient
  kept : List (TokenKey × KeptToken)
deriving DecidableEq

/-- What has to be done to answer a request for a token. -/
inductive GrantStep where
  /-- Nothing, because a kept token serves. -/
  | found (token : AccessToken)
  | refused (error : CredentialError)
  | send (form : Form)
deriving DecidableEq

namespace GrantCache

/-- A client that keeps no tokens yet. -/
def ofClient (client : GrantClient) : GrantCache := ⟨client, []⟩

/-- The number of seconds before the end of its lifetime at which a token is given up. -/
def margin : Nat := 60

/-- Whether tokens of a mode are kept. -/
def keeps : AuthModeKind → Bool
  | .delegated => false
  | .serviceIdentity | .application => true

/-- What a token for an endpoint is kept under. -/
def key (endpoint : Url) (mode : AuthMode) : TokenKey :=
  (mode.kind, endpoint.trimmedText)

/-- The kept token that still serves at a point in time. -/
def find? (g : GrantCache) (now : Moment) (k : TokenKey) : Option AccessToken :=
  match g.kept.lookup k with
  | some kept => if now < kept.expiresAt then some kept.token else none
  | none => none

/-- When a token that was received now with a lifetime stops being used; at once if the lifetime
is not known or goes beyond the clock. -/
def expiry (now : Moment) (lifetime : Option Nat) : Moment :=
  (now.after? (lifetime.getD 0 - margin)).getD now

/-- The tokens with another one kept under a key. -/
def keep (g : GrantCache) (k : TokenKey) (t : KeptToken) : GrantCache :=
  { g with kept := (k, t) :: g.kept.filter fun e => e.1 ≠ k }

/-- The first step of a request for a token. -/
def start (g : GrantCache) (now : Moment) (endpoint : Url) (mode : AuthMode) : GrantStep :=
  match if keeps mode.kind then g.find? now (key endpoint mode) else none with
  | some token => .found token
  | none => match g.client.form endpoint mode with
    | .ok form => .send form
    | .error e => .refused e

/-- The second step of a request for a token, when the reply has come. -/
def finish (g : GrantCache) (now : Moment) (endpoint : Url) (mode : AuthMode)
    (reply : TokenReply) : GrantCache × Except CredentialError AccessToken :=
  match reply.result g.client.tokenUrl with
  | .error e => (g, .error e)
  | .ok issued =>
    (if keeps mode.kind then
        g.keep (key endpoint mode) ⟨issued.token, expiry now issued.lifetime⟩
      else g,
      .ok issued.token)

/-- A whole request for a token, made at `asked`.  If a form has to be sent, `post` sends it, and
the reply is there at `replied`. -/
def acquire {m : Type → Type} [Monad m] (g : GrantCache) (asked replied : Moment)
    (post : Form → m TokenReply) (endpoint : Url) (mode : AuthMode) :
    m (GrantCache × Except CredentialError AccessToken) :=
  match g.start asked endpoint mode with
  | .found token => return (g, .ok token)
  | .refused e => return (g, .error e)
  | .send form => do
    let reply ← post form
    return g.finish replied endpoint mode reply

end GrantCache

end RecordGateway
