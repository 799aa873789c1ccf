import RecordGateway.Configuration.Environment
import RecordGateway.Configuration.Json
import RecordGateway.Document.Reader

/-!
# Loading the configuration

The configuration is made up of a document and of the environment, whose settings are laid over
those of the document.
-/

namespace RecordGateway.Configuration

/-- The member of an object whose name comes first in the order of texts. -/
def leastMember? (members : List (String × Json)) : Option (String × Json) :=
  members.foldl
    (fun least m => match least with
      | some l => if m.1 < l.1 then some m else some l
      | none => some m)
    none

/-- A setting without the parts of it that are not looked at: of a mapping in place of a mode all
members but the first, and of a sequence in place of an account all items but two. -/
def withoutSurplus (name : String) (item : Json) : Json :=
  match name, item with
  | "auth_mode", .object members => .object (leastMember? members).toList
  | "service_identity", .array items => .array (items.take 2)
  | _, item => item

/-- Settings without the parts of them that are not looked at. -/
def relaxed : Json → Json
  | .object members => .object (members.map fun m => (m.1, withoutSurplus m.1 m.2))
  | settings => settings

/-- The configuration of a document, which may be missing, and of the environment. -/
def load? (document : Option String) (environment : List (String × String)) :
    Option Configuration := do
  let settings ← match document with
    | none => some (.object [])
    | some text => Document.ofText? text
  ofJson? (relaxed (settings.merge (Environment.settings environment)))

end RecordGateway.Configuration
