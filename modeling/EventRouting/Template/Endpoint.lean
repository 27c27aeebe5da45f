import EventRouting.Route.Name
import EventRouting.Route.PathTemplate
import EventRouting.Template.Inventory

/-!
# Endpoints

An operation that events can reach. It becomes a destination that calls it and a rule that feeds the
destination with the events that carry the operation's identifier.
-/

namespace EventRouting

/-- An operation and all that is needed to reach it. -/
structure Endpoint where
  /-- The logical name of the destination. -/
  name : String
  /-- The path as it was declared. -/
  path : String
  /-- The path with wildcards in place of its parameters. -/
  wildcardPath : String
  method : String
  operation : Operation
  query : QueryParameters
  baseUrl : String

namespace Endpoint

/-- The identifier that events carry; empty if the operation has none. -/
def trigger (e : Endpoint) : String :=
  e.operation.trigger?.getD ""

/-- The destination that calls the operation. -/
def destination (e : Endpoint) (p : Policy) : Destination where
  connection := p.connectionName
  method := Text.upper e.method
  endpoint := e.baseUrl ++ e.wildcardPath
  rate := p.rateLimit

/-- What the rule does: it extracts the parameters of the path and the query from the event. -/
def target (e : Endpoint) (p : Policy) : Target where
  id := e.trigger ++ "-rule"
  destination := e.name
  role := p.roleName
  queue := p.queueName
  forwardsBody := e.operation.hasRequestBody
  pathValues := (PathTemplate.parameters e.path).map detailExpression
  query := e.query

/-- The rule that feeds the destination. -/
def rule (e : Endpoint) (p : Policy) : Rule where
  eventBus := p.eventBusParameter
  trigger := e.trigger
  target := e.target p

/-- The destination and its rule under their names. -/
def resources (e : Endpoint) (p : Policy) : List (String × Resource) :=
  [(e.name, .destination (e.destination p)),
    (LogicalName.rule e.name p.ruleSuffix, .rule (e.rule p))]

end Endpoint

end EventRouting
