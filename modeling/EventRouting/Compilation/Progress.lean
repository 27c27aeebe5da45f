import EventRouting.Compilation.Report

/-!
# Progress of a compilation

A compilation goes once through the paths of a description and through the operations of each path.
On its way it gathers the resources, remembers who used a name last, and writes down what there is
to report and to say.
-/

namespace EventRouting

/-- Something that a compilation has to say. -/
inductive Note
  | baseUrl (url : String)
  | unresolved (reference : String)
  | skipped (name : String)
  | creating (name trigger : String)
  | collision (c : NameCollision)
  /-- There is no role any more that something could be granted to. -/
  | roleReplaced (role : String)
  | replaced (name : String)
  | finished (destinations skipped : Nat)
deriving DecidableEq, Repr

/-- What a compilation has gathered so far. -/
structure Progress where
  resources : Inventory
  /-- Who used a name last. -/
  origins : OrderedMap Origin
  destinations : List GeneratedDestination := []
  skipped : List SkippedOperation := []
  collisions : List NameCollision := []
  unresolved : List UnresolvedReference := []
  /-- What was said, in the order in which it came about. -/
  notes : List Note := []

namespace Progress

/-- Before the first path there are the shared resources. -/
def start (p : Policy) : Progress where
  resources := Inventory.shared p
  origins := .ofList ((Inventory.shared p).names.map (·, .shared))

/-- Reports references that point nowhere. -/
def report (p : Progress) (references : List UnresolvedReference) : Progress :=
  { p with
    unresolved := p.unresolved ++ references
    notes := p.notes ++ references.map (.unresolved ·.reference) }

/-- Writes a resource under its name. If the name was used before, that is a collision with its last
user. -/
def write (origin : Origin) (p : Progress) (e : String × Resource) : Progress :=
  let (origins, existing) := p.origins.exchange e.1 origin
  let collisions := (existing.map (⟨e.1, ·, origin⟩)).toList
  { p with
    resources := p.resources.insert e.1 e.2
    origins := origins
    collisions := p.collisions ++ collisions
    notes := p.notes ++ collisions.map .collision }

/-- Skips an operation. -/
def skip (o : Options) (p : Progress) (a : AcceptedOperation) : Progress :=
  { p with
    skipped := p.skipped ++ [a.skipped o]
    notes := p.notes ++ [.skipped (a.name o)] }

/-- Generates the resources of an operation. -/
def generate (s : Specification) (o : Options) (baseUrl : String) (p : Progress)
    (a : AcceptedOperation) : Progress :=
  let announced : Progress := { p with notes := p.notes ++ [.creating (a.name o) a.trigger] }
  let reported := announced.report (a.unresolved s.declaredParameters)
  let written :=
    ((a.endpoint s.reusableQuery o baseUrl).resources o.policy).foldl (write a.origin) reported
  { written with destinations := written.destinations ++ [a.destination o] }

/-- Goes on past an operation with a wanted method. -/
def visit (s : Specification) (o : Options) (baseUrl : String) (p : Progress)
    (a : AcceptedOperation) : Progress :=
  match a.operation.trigger? with
  | none => p.skip o a
  | some _ => p.generate s o baseUrl a

/-- Goes on past a path with all its operations. -/
def visitPath (s : Specification) (o : Options) (baseUrl : String) (p : Progress)
    (e : String × PathItem) : Progress :=
  e.2.operations.foldl
    (fun p m => if o.methods.contains m.1 then p.visit s o baseUrl ⟨e.1, e.2, m.1, m.2⟩ else p)
    (p.report (e.2.unresolved s.declaredParameters e.1))

/-- Lets the role of a name call all destinations, if the role is still there. -/
def grantRole (p : Progress) (role : String) : Progress :=
  let (resources, granted) := p.resources.grantInvoke role (p.destinations.map (·.name))
  { p with
    resources := resources
    notes := if granted then p.notes else p.notes ++ [.roleReplaced role] }

end Progress

/-- What a compilation of the description gathers. -/
def Specification.progress (s : Specification) (o : Options) (baseUrl : String) : Progress :=
  (s.paths.foldl (Progress.visitPath s o baseUrl) (.start o.policy)).grantRole o.policy.roleName

end EventRouting
