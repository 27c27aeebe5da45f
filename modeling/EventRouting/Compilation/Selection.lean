import EventRouting.Route.MethodSet
import EventRouting.Template.Endpoint

/-!
# Accepted operations

An operation is accepted if its method is wanted. The options decide which methods these are, and
what the names of a destination and its rule are made of beside path and method.
-/

namespace EventRouting

/-- What a template is generated by, apart from the API description. -/
structure Options where
  methods : MethodSet := .parse MethodSet.defaultText
  /-- What every name of a destination begins with. -/
  namePrefix : String := ""
  environment : Option String := none
  /-- The template that resources are merged into. -/
  blueprint : Option Value := none
  policy : Policy := {}

/-- An operation with a wanted method, and where it was declared. -/
structure AcceptedOperation where
  path : String
  item : PathItem
  method : String
  operation : Operation
deriving Inhabited

namespace AcceptedOperation

/-- The identifier that events trigger the operation by. -/
def trigger (a : AcceptedOperation) : String :=
  a.operation.trigger?.getD ""

/-- The path with wildcards in place of its parameters. -/
def wildcardPath (a : AcceptedOperation) : String :=
  PathTemplate.toWildcards a.path

/-- The name of the operation's destination. -/
def name (o : Options) (a : AcceptedOperation) : String :=
  LogicalName.destination o.namePrefix a.wildcardPath a.method

/-- The name of the operation's rule. -/
def ruleName (o : Options) (a : AcceptedOperation) : String :=
  LogicalName.rule (a.name o) o.policy.ruleSuffix

/-- The operation with all that is needed to reach it. -/
def endpoint (reusable : List ReusableParameter) (o : Options) (baseUrl : String)
    (a : AcceptedOperation) : Endpoint where
  name := a.name o
  path := a.path
  wildcardPath := a.wildcardPath
  method := a.method
  operation := a.operation
  query := operationQuery reusable a.item a.operation
  baseUrl := baseUrl

end AcceptedOperation

end EventRouting
