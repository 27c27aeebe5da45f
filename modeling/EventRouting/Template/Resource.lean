import EventRouting.Template.Role
import EventRouting.Route.Query

/-!
# Resources

The five kinds of resources that a template is made of, and the tree that each of them is written
as. A resource refers to others by their logical names.
-/

namespace EventRouting

/-- A place that events are sent to: calls of a method of an endpoint, of which there are at most
`rate` per second. -/
structure Destination where
  connection : String
  method : String
  endpoint : String
  rate : Nat
deriving DecidableEq, Repr, Inhabited

/-- What a rule does with its events. -/
structure Target where
  id : String
  destination : String
  role : String
  queue : String
  /-- Whether the event's message becomes the body of the call. -/
  forwardsBody : Bool
  /-- The expressions for the wildcards of the endpoint. -/
  pathValues : List String
  query : QueryParameters
deriving DecidableEq

/-- Sends the events with a trigger from an event bus to a target. The bus is named by a parameter
of the template. -/
structure Rule where
  eventBus : String
  trigger : String
  target : Target
deriving DecidableEq

/-- The key of the API that calls carry. Its value is a parameter of the template. -/
structure Connection where
  keyName : String
  credentialParameter : String
deriving DecidableEq, Repr, Inhabited

/-- A resource of a template. -/
inductive Resource
  | destination (d : Destination)
  | rule (r : Rule)
  | role (r : ExecutionRole)
  | queue
  | connection (c : Connection)
deriving DecidableEq

/-- The properties of a destination. -/
def Destination.document (d : Destination) : Value :=
  .record [("ConnectionArn", .address d.connection), ("HttpMethod", .string d.method),
    ("InvocationEndpoint", .string d.endpoint), ("InvocationRateLimitPerSecond", .nat d.rate)]

namespace Target

/-- How an event becomes a body that consists of its message. -/
def bodyDocument : Value :=
  .record [("InputPathsMap", .record [("message", .string (detailExpression "message"))]),
    ("InputTemplate", .string "\"<message>\"")]

/-- The values of path and query, as far as there are any. -/
def parameterFields (t : Target) : List (String × Value) :=
  (if t.pathValues.isEmpty then [] else [("PathParameterValues", .strings t.pathValues)]) ++
    if t.query.isEmpty then []
    else [("QueryStringParameters", .record (t.query.entries.map fun e => (e.1, .string e.2)))]

/-- A target as a rule holds it. -/
def document (t : Target) : Value :=
  .record <|
    [("Id", .string t.id), ("Arn", .address t.destination), ("RoleArn", .address t.role)] ++
      (if t.forwardsBody then [("InputTransformer", bodyDocument)] else []) ++
      (if t.parameterFields.isEmpty then []
        else [("HttpParameters", .record t.parameterFields)]) ++
      [("DeadLetterConfig", .record [("Arn", .address t.queue)])]

end Target

/-- The properties of a rule. -/
def Rule.document (r : Rule) : Value :=
  .record [("EventBusName", .record [("Ref", .string r.eventBus)]),
    ("EventPattern", .record [("detail-type", .strings [r.trigger])]),
    ("State", .string "ENABLED"), ("Targets", .sequence [r.target.document])]

/-- The text that stands for the value of a template parameter. -/
def substitution (parameter : String) : String :=
  "$\x7b" ++ parameter ++ "\x7d"

/-- The properties of a connection. -/
def Connection.document (c : Connection) : Value :=
  .record [("AuthorizationType", .string "API_KEY"),
    ("AuthParameters", .record [("ApiKeyAuthParameters", .record
      [("ApiKeyName", .string c.keyName),
        ("ApiKeyValue", .record [("Fn::Sub", .string (substitution c.credentialParameter))])])])]

namespace Resource

/-- The type of a resource, as a template names it. -/
def type : Resource → String
  | .destination _ => "AWS::Events::ApiDestination"
  | .rule _ => "AWS::Events::Rule"
  | .role _ => "AWS::IAM::Role"
  | .queue => "AWS::SQS::Queue"
  | .connection _ => "AWS::Events::Connection"

/-- The properties of a resource, if it has any. -/
def properties? : Resource → Option Value
  | .destination d => some d.document
  | .rule r => some r.document
  | .role r => some r.document
  | .queue => none
  | .connection c => some c.document

/-- A resource as a template holds it. -/
def document (r : Resource) : Value :=
  .record (("Type", .string r.type) :: (r.properties?.map fun p => ("Properties", p)).toList)

end Resource

end EventRouting
