import RecordGateway.Grant.Cache

/-!
# Exchanges with an identity provider

A token source whose tokens come from an identity provider.  The provider takes down every form that
it is sent, in the order in which they come, and answers it.  What it answers to each request for a
token is fixed in advance, which is no restriction: a request sends one form at most.  Once nothing
is left, the provider cannot be reached any more.
-/

namespace RecordGateway

/-- What the outside contributes to one request for a token: when it is made, and what comes back
if a form is sent, and when. -/
structure Exchange where
  asked : Moment
  replied : Moment
  reply : TokenReply
deriving DecidableEq

/-- The exchange with a provider that cannot be reached. -/
def Exchange.unreachable : Exchange := ⟨⟨0⟩, ⟨0⟩, .noAnswer⟩

/-- A client of an identity provider, with the exchanges to come and the forms sent so far. -/
structure GrantedTokens where
  cache : GrantCache
  /-- The exchanges to come, one for each request for a token. -/
  exchanges : List Exchange
  /-- The forms that the provider has taken down. -/
  sent : List Form
deriving DecidableEq

namespace GrantedTokens

/-- The source of the tokens of a client that has not sent any forms yet. -/
def ofClient (client : GrantClient) (exchanges : List Exchange) : GrantedTokens :=
  ⟨.ofClient client, exchanges, []⟩

/-- The exchange of the next request for a token. -/
def next (t : GrantedTokens) : Exchange :=
  t.exchanges.headD .unreachable

/-- Sends a form to a provider with a given reply, which takes the form down behind those that it
has been sent before. -/
def post (reply : TokenReply) (form : Form) : StateM (List Form) TokenReply := fun sent =>
  (reply, sent ++ [form])

instance : TokenSource GrantedTokens where
  acquire t endpoint mode :=
    let ((cache, result), sent) :=
      t.cache.acquire t.next.asked t.next.replied (post t.next.reply) endpoint mode t.sent
    ({ cache, exchanges := t.exchanges.tail, sent }, result)

end GrantedTokens

end RecordGateway
