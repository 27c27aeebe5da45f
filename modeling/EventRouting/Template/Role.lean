import EventRouting.Document.Value

/-!
# Execution roles

The role that all rules assume. Its policies permit calls of destinations; a grant replaces the
destinations of the very first statement and leaves all others alone.
-/

namespace EventRouting

/-- The address of a resource. -/
def Value.address (resource : String) : Value :=
  .record [("Fn::GetAtt", .strings [resource, "Arn"])]

/-- An attribute of a resource. -/
structure Attribute where
  resource : String
  name : String
deriving DecidableEq, Repr, Inhabited

namespace Attribute

/-- The attribute that is the address of a resource. -/
def address (resource : String) : Attribute :=
  ⟨resource, "Arn"⟩

/-- An attribute as a template holds it. -/
def document (a : Attribute) : Value :=
  .record [("Fn::GetAtt", .strings [a.resource, a.name])]

@[simp] theorem resource_comp_address : (fun a : Attribute => a.resource) ∘ address = id :=
  rfl

@[simp] theorem document_address (resource : String) :
    (address resource).document = .address resource :=
  rfl

end Attribute

/-- What a service may do with a role. -/
structure TrustStatement where
  effect : String
  service : String
  action : String
deriving DecidableEq, Repr, Inhabited

/-- Who may assume a role, in some version of the policy language. -/
structure TrustPolicy where
  version : String
  statements : List TrustStatement
deriving DecidableEq, Repr, Inhabited

/-- Actions that are permitted on resources, or that are not. -/
structure Statement where
  effect : String
  actions : List String
  resources : List Attribute
deriving DecidableEq, Repr, Inhabited

/-- A named list of permissions, in some version of the policy language. -/
structure InlinePolicy where
  name : String
  version : String
  statements : List Statement
deriving DecidableEq, Repr, Inhabited

/-- A role that event rules may assume. -/
structure ExecutionRole where
  trust : TrustPolicy
  path : String
  policies : List InlinePolicy
deriving DecidableEq, Repr, Inhabited

/-- The version of the policy language. -/
def policyVersion : String := "2012-10-17"

/-- A policy document with the given statements. -/
def Value.policyDocument (version : String) (statements : List Value) : Value :=
  .record [("Version", .string version), ("Statement", .sequence statements)]

/-- A statement on services as a template holds it. -/
def TrustStatement.document (s : TrustStatement) : Value :=
  .record [("Effect", .string s.effect), ("Principal", .record [("Service", .string s.service)]),
    ("Action", .string s.action)]

/-- The trust of a role as a template holds it. -/
def TrustPolicy.document (p : TrustPolicy) : Value :=
  .policyDocument p.version (p.statements.map TrustStatement.document)

/-- A statement as a template holds it. -/
def Statement.document (s : Statement) : Value :=
  .record [("Effect", .string s.effect), ("Action", .strings s.actions),
    ("Resource", .sequence (s.resources.map Attribute.document))]

/-- A policy as a template holds it. -/
def InlinePolicy.document (p : InlinePolicy) : Value :=
  .record [("PolicyName", .string p.name),
    ("PolicyDocument", .policyDocument p.version (p.statements.map Statement.document))]

/-- The statement with its resources replaced by the given destinations. -/
def Statement.grant (destinations : List String) (s : Statement) : Statement :=
  { s with resources := destinations.map .address }

/-- The policy with the resources of its first statement replaced. -/
def InlinePolicy.grant (destinations : List String) (p : InlinePolicy) : InlinePolicy :=
  match p.statements with
  | [] => p
  | s :: rest => { p with statements := s.grant destinations :: rest }

namespace ExecutionRole

/-- The role that may call destinations, of which none is named yet. -/
def forEvents : ExecutionRole where
  trust := ⟨policyVersion, [⟨"Allow", "events.amazonaws.com", "sts:AssumeRole"⟩]⟩
  path := "/service-role/"
  policies := [⟨"destinationinvoke", policyVersion,
    [⟨"Allow", ["events:InvokeApiDestination"], []⟩]⟩]

/-- The role with the resources of the first statement of its first policy replaced. -/
def grant (destinations : List String) (r : ExecutionRole) : ExecutionRole :=
  match r.policies with
  | [] => r
  | p :: rest => { r with policies := p.grant destinations :: rest }

/-- The resources that some statement names, in order. -/
def invocable (r : ExecutionRole) : List String :=
  ((r.policies.flatMap (·.statements)).flatMap (·.resources)).map (·.resource)

/-- Granting twice is granting the second time. -/
theorem grant_grant (ds es : List String) (r : ExecutionRole) :
    (r.grant ds).grant es = r.grant es := by
  obtain ⟨trust, path, policies⟩ := r
  match policies with
  | [] => rfl
  | ⟨_, _, []⟩ :: _ => rfl
  | ⟨_, _, _ :: _⟩ :: _ => rfl

/-- The properties of the role as a template holds them. -/
def document (r : ExecutionRole) : Value :=
  .record [("AssumeRolePolicyDocument", r.trust.document), ("Path", .string r.path),
    ("Policies", .sequence (r.policies.map InlinePolicy.document))]

end ExecutionRole

end EventRouting
