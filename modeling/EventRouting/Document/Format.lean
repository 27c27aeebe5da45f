import EventRouting.FileName
import EventRouting.Yaml.Printer
import EventRouting.Json.Printer

/-!
# Document formats

A document is written as YAML or as JSON; a file name decides which.
-/

namespace EventRouting

/-- The format of a written document. -/
inductive Format
  | yaml
  | json
deriving DecidableEq, Repr, Inhabited

/-- A value that a format cannot hold. -/
inductive RenderError
  | yaml
  | json
deriving DecidableEq, Repr

namespace Format

/-- The format's name in records of what is written. -/
def name : Format → String
  | .yaml => "Yaml"
  | .json => "Json"

/-- The extension `json`, in letters of either case, asks for JSON; every other name for YAML. -/
def ofFileName (name : String) : Format :=
  match FileName.extension? name with
  | some e => if e.toList.map Char.toLower == ['j', 's', 'o', 'n'] then .json else .yaml
  | none => .yaml

end Format

/-- The text of a value in a format. -/
def Value.render (v : Value) : Format → Except RenderError String
  | .yaml =>
      match v.toYaml? with
      | some s => .ok s
      | none => .error .yaml
  | .json =>
      match v.toJson? with
      | some s => .ok s
      | none => .error .json

end EventRouting
