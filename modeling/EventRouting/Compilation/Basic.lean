import EventRouting.Compilation.Progress
import EventRouting.Route.BaseUrl
import EventRouting.Template.Blueprint

/-!
# Compilations

An API description and options make a template: the shared resources and those of all generated
operations, merged into the blueprint. It fails only if the policy is invalid, no server can be
called, or the blueprint is no template.
-/

namespace EventRouting

/-- Why there is no template. -/
inductive CompilationError
  | policy (e : PolicyError)
  | server (e : ServerError)
  | blueprint (e : BlueprintError)
deriving DecidableEq, Repr

/-- The wording of why there is no template. -/
def CompilationError.message : CompilationError → String
  | .policy e => "Invalid generation policy: " ++ e.message
  | .server e => e.message
  | .blueprint e => "Invalid blueprint template: " ++ e.message

/-- A template and the report of what went into it. -/
structure Compilation where
  template : Value
  baseUrl : String
  destinations : List GeneratedDestination
  skipped : List SkippedOperation
  collisions : List NameCollision
  unresolved : List UnresolvedReference
  /-- The caller's resources that had to make way. -/
  replaced : List String

namespace Specification

/-- Compiles the description. -/
def compile (s : Specification) (o : Options) : Except CompilationError Compilation := do
  o.policy.validate.mapError .policy
  let baseUrl ← (BaseUrl.resolve s.servers o.environment).mapError .server
  let progress := s.progress o baseUrl
  let blueprint := o.blueprint.getD (Blueprint.standard o.policy)
  let merged ← (Blueprint.merge blueprint progress.resources.document).mapError .blueprint
  return {
    template := merged.template
    baseUrl := baseUrl
    destinations := progress.destinations
    skipped := progress.skipped
    collisions := progress.collisions
    unresolved := progress.unresolved
    replaced := merged.replaced }

end Specification

namespace Compilation

/-- The resources of the template, with those of the blueprint. -/
def resources (c : Compilation) : Mapping :=
  ((c.template.field? "Resources").bind Value.entries?).getD []

/-- A resource of the template. -/
def resource? (c : Compilation) (name : String) : Option Value :=
  Entries.get? (.string name) c.resources

end Compilation

end EventRouting
