import RecordGateway.Url.Host

/-!
# Addresses

An address is an absolute URL of the scheme `http` or `https`, kept in its normal form: the
scheme and the host in lower case, the port only if it is not the usual one of the scheme, the
path without dot segments, and characters percent-encoded where they have to be.
-/

namespace RecordGateway

/-- A scheme of the web. -/
inductive WebScheme where
  | http
  | https
deriving DecidableEq

namespace WebScheme

/-- The name of the scheme. -/
def text : WebScheme → String
  | http => "http"
  | https => "https"

/-- The port that is meant when none is given. -/
def defaultPort : WebScheme → Nat
  | http => 80
  | https => 443

end WebScheme

/-- An absolute address of the web. -/
structure Url where
  scheme : WebScheme
  /-- The user name and maybe a password in front of the host, encoded; empty if there is none. -/
  userInfo : String
  host : Url.Host
  /-- The port, unless it is the default port of the scheme. -/
  port : Option Nat
  /-- The segments of the path, encoded. -/
  path : List String
  query : Option String
  fragment : Option String
deriving DecidableEq

namespace Url

/-- The text of an address. -/
def toChars (u : Url) : List Char :=
  u.scheme.text.toList ++ "://".toList ++
    (if u.userInfo = "" then [] else u.userInfo.toList ++ ['@']) ++
    u.host.toChars ++
    u.port.elim [] (fun port => ':' :: Text.decimalDigits port) ++
    u.path.flatMap (fun segment => '/' :: segment.toList) ++
    u.query.elim [] (fun query => '?' :: query.toList) ++
    u.fragment.elim [] (fun fragment => '#' :: fragment.toList)

/-- The text of an address. -/
def toText (u : Url) : String :=
  String.ofList u.toChars

/-- A text without the slashes at its end. -/
def trimSlashes (cs : List Char) : List Char :=
  (cs.reverse.dropWhile (· == '/')).reverse

/-- The text of an address without the slashes at its end. -/
def trimmedText (u : Url) : String :=
  String.ofList (trimSlashes u.toChars)

end Url

end RecordGateway
