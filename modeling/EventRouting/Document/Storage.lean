import EventRouting.Api.Reader
import EventRouting.Document.Format
import EventRouting.Document.Reader
import EventRouting.Files.Access
import EventRouting.Policy

/-!
# Stored documents

API descriptions, values and policies are loaded from files, and values are stored in files. The
name of a file decides the format in which a value is stored. The directories for it are created
first; the file itself is only written if the value can be written at all.
-/

namespace EventRouting

/-- Why a document cannot be loaded or stored. -/
inductive DocumentError
  | notFound (name : String)
  | file (e : FileError)
  | malformed (name : String)
  | unwritable (e : RenderError)
deriving DecidableEq, Repr

/-- Why a policy cannot be loaded. -/
inductive PolicyLoadError
  | file (e : FileError)
  | malformed
  | invalid (e : PolicyError)
deriving DecidableEq, Repr

namespace RenderError

/-- The wording of what cannot be written. -/
def message : RenderError → String
  | .yaml => "YAML parsing error"
  | .json => "JSON parsing error"

/-- What lies behind it, as far as it is said. -/
def causes : RenderError → List String
  | .yaml =>
      let text := "serializing nested enums in YAML is not supported yet"
      [text, text]
  | .json => []

end RenderError

namespace DocumentError

/-- The wording of why a document cannot be loaded or stored. -/
def message : DocumentError → String
  | .notFound name => "Document not found at path: " ++ name
  | .file e => "IO error: " ++ e.message
  | .malformed name => "Invalid document format in file " ++ name
  | .unwritable e => e.message

/-- What lies behind it, as far as it is said. -/
def causes : DocumentError → List String
  | .file e => [e.message]
  | .unwritable e => e.causes
  | _ => []

end DocumentError

namespace PolicyLoadError

/-- The wording of why a policy cannot be loaded. -/
def message : PolicyLoadError → String
  | .file e => "IO error: " ++ e.message
  | .malformed => "TOML error"
  | .invalid e => "Invalid generation policy: " ++ e.message

/-- What lies behind it, as far as it is said. -/
def causes : PolicyLoadError → List String
  | .file e => [e.message]
  | _ => []

end PolicyLoadError

variable {m : Type → Type} [Monad m] [FileAccess m]

/-- What `parse` makes of the text of a file. -/
def loadDocument {α : Type} (parse : String → Option α) (name : String) :
    m (Except DocumentError α) := do
  if ! (← FileAccess.isThere name) then return .error (.notFound name)
  match ← readText name with
  | .error e => return .error (.file e)
  | .ok text =>
      match parse text with
      | some a => return .ok a
      | none => return .error (.malformed name)

/-- The API description in a file. -/
def Specification.load (name : String) : m (Except DocumentError Specification) :=
  loadDocument Specification.parse? name

/-- The value in a file. -/
def Value.load (name : String) : m (Except DocumentError Value) :=
  loadDocument Value.parse? name

/-- The valid policy in a text. -/
def Policy.ofText (text : String) : Except PolicyLoadError Policy :=
  match Policy.parse? text with
  | none => .error .malformed
  | some p => (p.validate.map fun _ => p).mapError .invalid

/-- The valid policy in a file. -/
def Policy.load (name : String) : m (Except PolicyLoadError Policy) := do
  match ← readText name with
  | .error e => return .error (.file e)
  | .ok text => return Policy.ofText text

/-- Creates the directories for a file. -/
def createParents (name : String) : m (Except FileError Unit) :=
  match (FileName.parent? name).filter (· != "") with
  | some around => FileAccess.createDirectories around
  | none => return .ok ()

/-- Stores a value in a file. -/
def Value.store (name : String) (v : Value) : m (Except DocumentError Unit) := do
  match ← createParents name with
  | .error e => return .error (.file e)
  | .ok () =>
      match v.render (Format.ofFileName name) with
      | .error e => return .error (.unwritable e)
      | .ok text => return (← FileAccess.write name text.toUTF8).mapError .file

end EventRouting
