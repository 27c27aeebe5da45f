import EventRouting.Policy
import EventRouting.Template.Resource

/-!
# Inventories

The resources of a template by their logical names, in the order in which the names first came. A
resource that comes under an old name takes the place of the one before.
-/

namespace EventRouting

/-- Resources by their logical names. -/
abbrev Inventory := OrderedMap Resource

namespace Inventory

/-- The role of a name, if the name has one. -/
def role? (m : Inventory) (name : String) : Option ExecutionRole :=
  match m.get? name with
  | some (.role r) => some r
  | _ => none

/-- The resource, with the destinations granted if it is a role. -/
def grantResource (destinations : List String) : Resource → Resource
  | .role r => .role (r.grant destinations)
  | r => r

/-- Lets the role of a name call the destinations. Without such a role nothing changes. -/
def grant (m : Inventory) (name : String) (destinations : List String) : Inventory :=
  m.modify name (grantResource destinations)

/-- Lets the role of a name call the destinations, and tells whether there is such a role. -/
def grantInvoke (m : Inventory) (name : String) (destinations : List String) :
    Inventory × Bool :=
  match m.role? name with
  | some _ => (m.grant name destinations, true)
  | none => (m, false)

/-- A grant changes no names. -/
theorem names_grant (m : Inventory) (name : String) (destinations : List String) :
    (m.grant name destinations).names = m.names :=
  OrderedMap.names_modify m name _

/-- The role of a name after a grant. -/
theorem role?_grant (m : Inventory) (name : String) (destinations : List String) :
    role? (m.grant name destinations) name =
      (role? m name).map (ExecutionRole.grant destinations) := by
  unfold role? grant
  rw [OrderedMap.get?_modify_self]
  cases h : m.get? name with
  | none => simp
  | some r => cases r <;> simp [grantResource]

section Roles

variable (m : Inventory) (name : String) (ds : List String)

theorem role?_eq_some_iff {r : ExecutionRole} :
    m.role? name = some r ↔ m.get? name = some (.role r) := by
  rw [role?]
  cases m.get? name with
  | none => simp
  | some x => cases x <;> simp

theorem grantResource_of_not_role {destinations : List String} {r : Resource}
    (h : ∀ x, r ≠ .role x) : grantResource destinations r = r := by
  cases r with
  | role x => exact absurd rfl (h x)
  | _ => rfl

/-- Where there is no role, nothing is granted. -/
theorem grant_of_role?_eq_none (h : m.role? name = none) : m.grant name ds = m := by
  apply OrderedMap.ext
  apply Entries.modify_eq_self
  intro x hx
  apply grantResource_of_not_role
  rintro r rfl
  rw [(m.role?_eq_some_iff name).mpr hx] at h
  cases h

/-- A grant tells whether there was a role, and it needs no other case distinction. -/
theorem grantInvoke_eq : m.grantInvoke name ds = (m.grant name ds, (m.role? name).isSome) := by
  rw [grantInvoke]
  cases h : m.role? name with
  | none => rw [m.grant_of_role?_eq_none name ds h, Option.isSome_none]
  | some r => rw [Option.isSome_some]

end Roles

/-- The resources as a section of a template. -/
def document (m : Inventory) : Mapping :=
  m.entries.map fun e => (.string e.1, e.2.document)

end Inventory

/-- The resources that all rules share, under their names: their role, the queue for events that
could not be delivered, and the connection. -/
def Policy.sharedResources (p : Policy) : List (String × Resource) :=
  [(p.roleName, .role .forEvents), (p.queueName, .queue),
    (p.connectionName, .connection ⟨p.apiKeyName, p.credentialParameter⟩)]

theorem Policy.keys_sharedResources (p : Policy) :
    Entries.keys p.sharedResources = p.sharedNames := rfl

/-- The shared resources as an inventory. -/
def Inventory.shared (p : Policy) : Inventory :=
  .ofList p.sharedResources

end EventRouting
