import EventRouting.Document.Value
import EventRouting.Policy

/-!
# Blueprints

A template of the caller's that resources are merged into. Resources of a new name are appended to
its section `Resources`, those of an old name take the place of the caller's, and everything else
stays as it is.
-/

namespace EventRouting

/-- Why a value cannot be merged into. The kind of what was found is named. -/
inductive BlueprintError
  | root (kind : String)
  | resources (kind : String)
deriving DecidableEq, Repr

/-- The wording of why a value cannot be merged into. -/
def BlueprintError.message : BlueprintError → String
  | .root kind => "expected a mapping at the document root, found " ++ kind
  | .resources kind => "expected 'Resources' to be a mapping, found " ++ kind

namespace Mapping

/-- Writes the entries of `top` into `base`. -/
def overlay (base top : Mapping) : Mapping :=
  Entries.overlay base top

/-- The names in `top` that `base` has too, in the order of `top`. -/
def replacedNames (base top : Mapping) : List String :=
  top.filterMap fun
    | (.string name, _) => if Entries.contains (.string name) base then some name else none
    | _ => none

end Mapping

/-- A template that resources were merged into, and the names of the caller's resources that had to
make way. -/
structure Merged where
  template : Value
  replaced : List String

namespace Blueprint

/-- The key of the section that holds the resources. -/
def resourcesKey : Value := .string "Resources"

/-- The template that is used if the caller has none. -/
def standard (p : Policy) : Value :=
  .record [("AWSTemplateFormatVersion", .string "2010-09-09"),
    ("Description", .string p.description), ("Resources", .mapping [])]

/-- The sections of a template. Nothing counts as the template without sections. -/
def sections : Value → Except BlueprintError Mapping
  | .mapping entries => .ok entries
  | .null => .ok []
  | v => .error (.root v.kind)

/-- The resources among the sections. A missing section and one that is nothing hold none. -/
def resources (sections : Mapping) : Except BlueprintError Mapping :=
  match Entries.get? resourcesKey sections with
  | none => .ok []
  | some (.mapping entries) => .ok entries
  | some v => if v.isNull then .ok [] else .error (.resources v.kind)

/-- Merges resources into a template. -/
def merge (template : Value) (generated : Mapping) : Except BlueprintError Merged := do
  let sections ← sections template
  let old ← resources sections
  return {
    template :=
      .mapping (Entries.insert resourcesKey (.mapping (old.overlay generated)) sections)
    replaced := old.replacedNames generated }

end Blueprint

end EventRouting
