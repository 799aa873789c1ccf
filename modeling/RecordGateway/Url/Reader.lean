import RecordGateway.Url.Basic

/-!
# Reading addresses

Blanks and control characters around an address are dropped, tabs and line ends everywhere.  The
slashes after the scheme may be missing or too many, and a backslash counts as a slash.  A text
that is an address of another scheme is refused for its scheme only if it is well-formed.
-/

namespace RecordGateway.Url

/-! ### The parts of an address -/

/-- A text without the blanks and control characters at its ends and without tabs and line ends. -/
def cleaned (cs : List Char) : List Char :=
  let blank (c : Char) : Bool := c.toNat ≤ 0x20
  (((cs.dropWhile blank).reverse.dropWhile blank).reverse).filter fun c =>
    c != '\t' && c != '\n' && c != '\r'

/-- A character that can stand in a scheme after the first letter. -/
def isSchemeChar (c : Char) : Bool :=
  c.isAlphanum || c == '+' || c == '-' || c == '.'

/-- The scheme of a text in lower case, and what follows its colon. -/
def scheme? (cs : List Char) : Option (List Char × List Char) :=
  match cs.dropWhile isSchemeChar with
  | ':' :: rest =>
    let name := cs.takeWhile isSchemeChar
    if name.head?.any Char.isAlpha then some (name.map Char.toLower, rest) else none
  | _ => none

/-- The parts of a text before and after the first of some characters, which stays at the front of
the second part. -/
def breakAt (stop : Char → Bool) (cs : List Char) : List Char × List Char :=
  (cs.takeWhile fun c => !stop c, cs.dropWhile fun c => !stop c)

/-- A slash, or a backslash in its place. -/
def isSlash (c : Char) : Bool :=
  c == '/' || c == '\\'

/-- The text after the last at sign, and the text before it if there is one. -/
def splitUserInfo (authority : List Char) : Option (List Char) × List Char :=
  let host := (authority.reverse.takeWhile (· != '@')).reverse
  if host.length < authority.length then
    (some (authority.take (authority.length - host.length - 1)), host)
  else (none, authority)

/-- A user name and a password in their encoded form; an empty password is dropped. -/
def encodeUserInfo (info : List Char) : List Char :=
  let (user, rest) := breakAt (· == ':') info
  let password := rest.drop 1
  Percent.encode Percent.userReserved user ++
    if password = [] then [] else ':' :: Percent.encode Percent.userReserved password

/-- The parts of a text before and after the first colon outside of brackets. -/
def splitPort : Bool → List Char → List Char × Option (List Char)
  | _, [] => ([], none)
  | inside, c :: rest =>
    if c = ':' ∧ !inside then ([], some rest)
    else
      let (host, port) := splitPort (c == '[' || (inside && c != ']')) rest
      (c :: host, port)

/-- The number of a port, none if there are no digits. -/
def portOf (digits : List Char) : Except UrlError (Option Nat) :=
  if digits = [] then .ok none
  else match Text.natural? digits with
    | some port => if port < UInt16.size then .ok (some port) else .error .invalidPort
    | none => .error .invalidPort

/-- A segment of a path that stands for the directory itself. -/
def isSingleDot (segment : List Char) : Bool :=
  [".", "%2e"].contains (String.ofList (segment.map Char.toLower))

/-- A segment of a path that stands for the directory above. -/
def isDoubleDot (segment : List Char) : Bool :=
  ["..", "%2e.", ".%2e", "%2e%2e"].contains (String.ofList (segment.map Char.toLower))

/-- The segments of a path after the dot segments have been resolved, on top of the segments
`done`, of which the last one comes first. -/
def resolveDots : List (List Char) → List (List Char) → List (List Char)
  | done, [] => done.reverse
  | done, segment :: rest =>
    if isDoubleDot segment then
      if rest.isEmpty then ([] :: done.drop 1).reverse else resolveDots (done.drop 1) rest
    else if isSingleDot segment then
      if rest.isEmpty then ([] :: done).reverse else resolveDots done rest
    else resolveDots (segment :: done) rest

/-- The segments of a path, which may lack the slash in front. -/
def segmentsOf (path : List Char) : List String :=
  let path := match path with
    | c :: rest => if isSlash c then rest else path
    | [] => []
  (resolveDots [] (Text.split isSlash path)).map fun segment =>
    String.ofList (Percent.encode Percent.pathReserved segment)

/-! ### Addresses of the web -/

/-- The address of a scheme whose text goes on with `rest` after the colon. -/
def ofRest (scheme : WebScheme) (rest : List Char) : Except UrlError Url := do
  let rest := rest.dropWhile isSlash
  let (authority, rest) := breakAt (fun c => isSlash c || c == '?' || c == '#') rest
  let (info, authority) := splitUserInfo authority
  let (hostText, portText) := splitPort false authority
  if hostText = [] then .error .emptyHost
  else
    let host ← Host.ofChars hostText
    let port ← portOf (portText.getD [])
    let (path, rest) := breakAt (fun c => c == '?' || c == '#') rest
    let (query, rest) := breakAt (· == '#') rest
    return {
      scheme
      userInfo := String.ofList (encodeUserInfo (info.getD []))
      host
      port := port.filter (· ≠ scheme.defaultPort)
      path := segmentsOf path
      query := if query = [] then none
        else some (String.ofList (Percent.encode Percent.queryReserved (query.drop 1)))
      fragment := if rest = [] then none
        else some (String.ofList (Percent.encode Percent.fragmentReserved (rest.drop 1))) }

/-! ### Other schemes -/

/-- The characters that a host of a scheme without rules of its own cannot have. -/
def opaqueForbidden : List Char :=
  ['\u0000', ' ', '<', '>', '@', '[', '\\', ']', '^', '|']

/-- Checks the host of a scheme without rules of its own. -/
def checkOpaqueHost (host : List Char) : Except UrlError Unit :=
  match host with
  | '[' :: _ => (Host.ofChars host).map fun _ => ()
  | _ => if host.any opaqueForbidden.contains then .error .forbiddenCharacter else .ok ()

/-- Checks the authority of a scheme without rules of its own. -/
def checkOpaque (rest : List Char) : Except UrlError Unit := do
  let (authority, rest) := breakAt (fun c => c == '/' || c == '?' || c == '#') rest
  let (info, authority) := splitUserInfo authority
  let (host, port) := splitPort false authority
  if info = some [] ∧ authority = [] ∧ rest ≠ [] then .error .emptyHost
  else
    checkOpaqueHost host
    if host = [] ∧ (port.isSome ∨ encodeUserInfo (info.getD []) ≠ []) then .error .emptyHost
    else discard (portOf ((port.getD []).takeWhile (· != '\\')))

/-- A letter and a colon or a vertical bar, which stand for a drive and not for a host. -/
def isDriveLetter : List Char → Bool
  | [letter, mark] => letter.isAlpha && (mark == ':' || mark == '|')
  | _ => false

/-- Checks the host of a file. -/
def checkFile : List Char → Except UrlError Unit
  | a :: b :: rest =>
    let (host, _) := breakAt (fun c => isSlash c || c == '?' || c == '#') rest
    if isSlash a && isSlash b && !host.isEmpty && !isDriveLetter host then
      (Host.ofChars host).map fun _ => ()
    else .ok ()
  | _ => .ok ()

/-- Checks the text of another scheme. -/
def checkOther (scheme : String) (rest : List Char) : Except UrlError Unit :=
  match scheme, rest with
  | "ftp", _ | "ws", _ | "wss", _ => discard (ofRest .http rest)
  | "file", _ => checkFile rest
  | _, '/' :: '/' :: rest => checkOpaque rest
  | _, _ => .ok ()

/-- Reads an address of the web. -/
def ofText (text : String) : Except UrlError Url :=
  match scheme? (cleaned text.toList) with
  | none => .error .relative
  | some (name, rest) => match String.ofList name with
    | "http" => ofRest .http rest
    | "https" => ofRest .https rest
    | other => do
      checkOther other rest
      .error (.unsupportedScheme other)

end RecordGateway.Url
