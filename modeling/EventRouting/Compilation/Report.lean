import EventRouting.Compilation.Selection

/-!
# Reports

What a compilation tells about the operations it met: the destinations that were generated, the
operations that were skipped, the references that point nowhere, and the names that were used more
than once.
-/

namespace EventRouting

/-- A generated destination and the operation behind it. -/
structure GeneratedDestination where
  name : String
  ruleName : String
  path : String
  method : String
  trigger : String
deriving DecidableEq, Repr

/-- Why an accepted operation was not generated. -/
inductive SkipReason
  | missingTrigger
deriving DecidableEq, Repr

/-- The wording of why an operation was not generated. -/
def SkipReason.message : SkipReason → String
  | .missingTrigger => "no 'operationId' defined"

/-- An accepted operation that was not generated, with the name its destination would have had. -/
structure SkippedOperation where
  path : String
  method : String
  name : String
  reason : SkipReason
deriving DecidableEq, Repr

/-- A reference to no reusable parameter. It was declared for a path or for one of its methods. -/
structure UnresolvedReference where
  path : String
  method : Option String
  reference : String
deriving DecidableEq, Repr

/-- Who uses a name. -/
inductive Origin
  | shared
  | operation (method path : String)
deriving DecidableEq, Repr

/-- The wording of who uses a name. -/
def Origin.text : Origin → String
  | .shared => "shared resource"
  | .operation method path => Text.upper method ++ " " ++ path

/-- A name that is used again: its last use so far, and the one that replaces it. -/
structure NameCollision where
  name : String
  existing : Origin
  replacement : Origin
deriving DecidableEq, Repr

namespace AcceptedOperation

/-- The operation as the user of its two names. -/
def origin (a : AcceptedOperation) : Origin :=
  .operation a.method a.path

/-- What is reported of a generated operation. -/
def destination (o : Options) (a : AcceptedOperation) : GeneratedDestination :=
  ⟨a.name o, a.ruleName o, a.path, a.method, a.trigger⟩

/-- What is reported of an operation without an identifier. -/
def skipped (o : Options) (a : AcceptedOperation) : SkippedOperation :=
  ⟨a.path, a.method, a.name o, .missingTrigger⟩

/-- The references of the operation that point nowhere. -/
def unresolved (declared : List String) (a : AcceptedOperation) : List UnresolvedReference :=
  (unresolvedReferences declared a.operation.parameters).map (⟨a.path, some a.method, ·⟩)

end AcceptedOperation

/-- The references of a path itself that point nowhere. -/
def PathItem.unresolved (item : PathItem) (declared : List String) (path : String) :
    List UnresolvedReference :=
  (unresolvedReferences declared item.parameters).map (⟨path, none, ·⟩)

end EventRouting
