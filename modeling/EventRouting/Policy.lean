import EventRouting.Toml.Assignment

/-!
# Generation policies

The names and limits that every template shares. A policy is valid if its rate is positive, no name
is empty and the three shared resources have different names.
-/

namespace EventRouting

/-- The fixed names and limits of a template. -/
structure Policy where
  /-- The greatest number of calls per second and destination. -/
  rateLimit : Nat := 300
  /-- The role that every rule assumes. -/
  roleName : String := "ApiDestinationsTargetRole"
  queueName : String := "FailedDeliveryDLQ"
  connectionName : String := "ApiConnection"
  /-- The header that carries the key of the API. -/
  apiKeyName : String := "Authorization"
  /-- The template parameter that holds the key's value. -/
  credentialParameter : String := "MomentoAuthToken"
  /-- The template parameter that names the event bus. -/
  eventBusParameter : String := "EventBusName"
  ruleSuffix : String := "Rule"
  description : String :=
    "CloudFormation template that deploys EventBridge rules and API destinations for my API"
deriving DecidableEq, Repr, Inhabited

/-- What is wrong with a policy. -/
inductive PolicyError
  | rateTooLow
  | emptyField (field : String)
  | repeatedName (name : String)
deriving DecidableEq, Repr

/-- The wording of what is wrong. -/
def PolicyError.message : PolicyError → String
  | .rateTooLow => "invocation_rate_limit_per_second must be at least 1"
  | .emptyField field => field ++ " cannot be empty"
  | .repeatedName name => "shared resource name '" ++ name ++ "' is used more than once"

namespace Policy

/-- The names of the resources that all destinations share. -/
def sharedNames (p : Policy) : List String :=
  [p.roleName, p.queueName, p.connectionName]

/-- The fields that must not be empty, in the order in which they are looked at. -/
def requiredFields (p : Policy) : List (String × String) :=
  [("role_name", p.roleName), ("dead_letter_queue_name", p.queueName),
    ("connection_name", p.connectionName), ("api_key_name", p.apiKeyName),
    ("credential_parameter", p.credentialParameter),
    ("event_bus_parameter", p.eventBusParameter), ("rule_suffix", p.ruleSuffix)]

/-- The first name of a list that stands in it before. -/
def firstRepeated? : (seen : List String) → List String → Option String
  | _, [] => none
  | seen, name :: rest =>
      if seen.contains name then some name else firstRepeated? (name :: seen) rest

/-- The first thing that is wrong with a policy, if there is one. -/
def error? (p : Policy) : Option PolicyError :=
  if p.rateLimit = 0 then some .rateTooLow
  else
    match p.requiredFields.find? fun f => f.2 == "" with
    | some (field, _) => some (.emptyField field)
    | none => (firstRepeated? [] p.sharedNames).map .repeatedName

/-- Accepts a valid policy. -/
def validate (p : Policy) : Except PolicyError Unit :=
  match p.error? with
  | some e => .error e
  | none => .ok ()

/-- A policy with the field `name` set, if there is such a field and the value is of its kind. The
rate has 32 bits. -/
def set? (p : Policy) (name : String) (setting : Toml.Setting) : Option Policy :=
  match name, setting with
  | "invocation_rate_limit_per_second", .integer n =>
      if 0 ≤ n ∧ n < Nat.pow 2 32 then some { p with rateLimit := n.toNat } else none
  | "role_name", .text s => some { p with roleName := s }
  | "dead_letter_queue_name", .text s => some { p with queueName := s }
  | "connection_name", .text s => some { p with connectionName := s }
  | "api_key_name", .text s => some { p with apiKeyName := s }
  | "credential_parameter", .text s => some { p with credentialParameter := s }
  | "event_bus_parameter", .text s => some { p with eventBusParameter := s }
  | "rule_suffix", .text s => some { p with ruleSuffix := s }
  | "template_description", .text s => some { p with description := s }
  | _, _ => none

/-- The policy that a text sets up: what it does not name keeps its default. -/
def parse? (text : String) : Option Policy := do
  (← Toml.parse? text).foldlM (fun p e => p.set? e.1 e.2) {}

end Policy

end EventRouting
