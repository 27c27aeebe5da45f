import EventRouting.Api.Specification
import EventRouting.OrderedMap

/-!
# Query parameters

An event carries the values of its query parameters in its detail, so every query parameter of an
operation maps to an expression that extracts it from there. An operation inherits the parameters of
its path and overrides those of the same name.
-/

namespace EventRouting

/-- The expression that extracts a field of an event's detail. -/
def detailExpression (field : String) : String :=
  "$.detail." ++ field

/-- Query parameters in order, each with its expression. -/
abbrev QueryParameters := OrderedMap String

/-- Adds a parameter that is extracted from the field of its name. -/
def OrderedMap.insertDetail (q : QueryParameters) (name : String) : QueryParameters :=
  q.insert name (detailExpression name)

/-- A reusable query parameter: the key that references point to, and its name. -/
structure ReusableParameter where
  key : String
  name : String
deriving DecidableEq, Repr

/-- The reusable parameters that are part of the query. -/
def Specification.reusableQuery (s : Specification) : List ReusableParameter :=
  (s.parameters.filter fun p => p.2.isQuery).map fun p => ⟨p.1, p.2.name⟩

/-- The name of the query parameter that a parameter stands for, if it is one. A reference stands
for the first reusable parameter with its key. -/
def Parameter.queryName? (reusable : List ReusableParameter) : Parameter → Option String
  | .reference target =>
      (reusable.find? fun r => r.key == referenceName target).map (·.name)
  | .inline definition =>
      if definition.isQuery && definition.name != "" then some definition.name else none

/-- The query parameters among the parameters of a path or an operation. -/
def resolveQuery (parameters : List Parameter) (reusable : List ReusableParameter) :
    QueryParameters :=
  (parameters.filterMap (Parameter.queryName? reusable)).foldl OrderedMap.insertDetail .empty

/-- The query parameters of an operation together with those of its path. -/
def operationQuery (reusable : List ReusableParameter) (item : PathItem) (operation : Operation) :
    QueryParameters :=
  (resolveQuery item.parameters reusable).merge (resolveQuery operation.parameters reusable)

/-- The references among parameters that point to no declared key. -/
def unresolvedReferences (declared : List String) (parameters : List Parameter) : List String :=
  parameters.filterMap fun
    | .reference target => if declared.contains (referenceName target) then none else some target
    | .inline _ => none

/-- The keys of all reusable parameters. -/
def Specification.declaredParameters (s : Specification) : List String :=
  Entries.keys s.parameters

end EventRouting
