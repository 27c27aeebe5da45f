import EventRouting.Proofs.CollisionReport
import EventRouting.Proofs.LastWriter

/-!
# The permissions of the execution role

As long as no operation takes the role's name, the role of the template may invoke the destinations
of the report, each as often and in the order in which it was generated. If an operation takes the
name there is no role, and the report says so.
-/

namespace EventRouting

namespace Value

/-- The first item of a sequence. -/
def first? : Value → Option Value
  | .sequence (item :: _) => some item
  | _ => none

/-- What the first statement of the first policy of a role permits calls of. -/
def invocable? (role : Value) : Option Value := do
  let policy ← (← (← role.field? "Properties").field? "Policies").first?
  let statement ← (← (← policy.field? "PolicyDocument").field? "Statement").first?
  statement.field? "Resource"

theorem field?_record_cons (name : String) (value : Value) (fields : List (String × Value))
    (field : String) :
    (record ((name, value) :: fields)).field? field =
      if name = field then some value else (record fields).field? field := by
  by_cases h : name = field
  · simp [record, field?, entries?, Entries.get?, h]
  · simp [record, field?, entries?, Entries.get?, h]

theorem field?_record (fields : List (String × Value)) (field : String) :
    (record fields).field? field = Entries.get? field fields := by
  induction fields with
  | nil => rfl
  | cons e rest ih =>
      obtain ⟨name, value⟩ := e
      simp [field?_record_cons, Entries.get?, ih]

end Value

/-- A resource is written with its type. -/
theorem Resource.field?_type (r : Resource) : r.document.field? "Type" = some (.string r.type) := by
  rw [document, Value.field?_record_cons, if_pos rfl]

/-- What was granted to the role is what is read from its document. -/
theorem ExecutionRole.invocable?_document (destinations : List String) :
    (Resource.role (forEvents.grant destinations)).document.invocable? =
      some (.sequence (destinations.map Value.address)) := by
  simp [Resource.document, Resource.properties?, ExecutionRole.document, forEvents, grant,
    InlinePolicy.grant, InlinePolicy.document, Statement.grant, Statement.document,
    Value.policyDocument, Value.invocable?, Value.field?_record_cons, Value.first?]

namespace Specification

open NameCollision

namespace Compiled

variable {s : Specification} {o : Options} {c : Compilation}

theorem names_operationResources (h : s.Compiled o c) :
    Entries.keys (s.operationResources o c.baseUrl) =
      c.destinations.flatMap fun d => [d.name, d.ruleName] := by
  have hk := h.keys_usedNames
  rw [c.keys_usedNames, resources_eq h.nodup, Entries.keys_append,
    Policy.keys_sharedResources] at hk
  exact (List.append_cancel_left hk).symm

/-- A role whose name no operation takes is granted all destinations of the report. -/
theorem get?_inventory_role (h : s.Compiled o c)
    (hr : o.policy.roleName ∉ Entries.keys (s.operationResources o c.baseUrl)) :
    (s.inventory o c.baseUrl).get? o.policy.roleName =
      some (.role (ExecutionRole.forEvents.grant (c.destinations.map (·.name)))) := by
  have hn := h.nodup
  rw [Policy.sharedNames, List.nodup_cons] at hn
  have hl : Entries.get? o.policy.roleName (s.resources o c.baseUrl).reverse =
      some (.role .forEvents) := by
    rw [Entries.get?_reverse_eq_some_iff]
    refine ⟨[], o.policy.sharedResources.tail ++ s.operationResources o c.baseUrl, ?_, ?_⟩
    · rw [resources_eq h.nodup]
      rfl
    · rw [Entries.keys_append, List.mem_append, not_or]
      exact ⟨hn.1, hr⟩
  rw [get?_inventory, hl, Option.map_some, if_pos rfl, h.destinations]
  rfl

/-- An operation that takes the role's name has written last under it. -/
theorem exists_last_write (h : s.Compiled o c)
    (hr : o.policy.roleName ∈ Entries.keys (s.operationResources o c.baseUrl)) :
    ∃ before r after, s.writes o c.baseUrl = before ++ (o.policy.roleName, r) :: after ∧
      o.policy.roleName ∉ Entries.keys after ∧ before ≠ [] ∧
      ((∃ d, r = .destination d) ∨ ∃ x, r = .rule x) := by
  obtain ⟨before, r, after, he, ha⟩ := Entries.exists_last_of_mem_keys hr
  have hm : (o.policy.roleName, r) ∈ s.operationResources o c.baseUrl := by simp [he]
  refine ⟨o.policy.sharedResources ++ before, r, after, ?_, ha, by simp [Policy.sharedResources],
    operationResources_kind hm⟩
  rw [← resources_eq_writes h.nodup, resources_eq h.nodup, he, List.append_assoc]

/-- An operation that takes the role's name is reported against the shared role. -/
theorem exists_collision (h : s.Compiled o c)
    (hr : o.policy.roleName ∈ Entries.keys (s.operationResources o c.baseUrl)) :
    ∃ col ∈ c.collisions, col.name = o.policy.roleName ∧ col.existing = .shared := by
  rw [keys_operationResources] at hr
  -- Only the first operation of the name meets the shared role.
  obtain ⟨before, origin, after, he, hb⟩ := Entries.exists_first_of_mem_keys hr
  have hn := h.nodup
  rw [Policy.sharedNames, List.nodup_cons] at hn
  have hbetween : o.policy.roleName ∉ Entries.keys
      ([(o.policy.queueName, .shared), (o.policy.connectionName, .shared)] ++ before) := by
    rw [Entries.keys_append, List.mem_append, not_or]
    exact ⟨hn.1, hb⟩
  refine ⟨⟨o.policy.roleName, .shared, origin⟩, ?_, rfl, rfl⟩
  rw [h.collisions, Specification.collisions]
  have huses : s.uses o = [] ++ (o.policy.roleName, .shared) ::
      ([(o.policy.queueName, .shared), (o.policy.connectionName, .shared)] ++ before ++
        (o.policy.roleName, origin) :: after) := by
    rw [List.append_assoc, ← he]
    rfl
  rw [huses]
  exact mem_against .shared origin hbetween

end Compiled

/-- If no operation takes the role's name, the template's role may invoke exactly the destinations
of the report, in their order. Otherwise the last resource that an operation wrote under the name
stands there, which is no role, and a collision with the shared role is reported. -/
theorem role_permissions {s : Specification} {o : Options} {c : Compilation}
    (h : s.compile o = .ok c) :
    ((∀ d ∈ c.destinations, d.name ≠ o.policy.roleName ∧ d.ruleName ≠ o.policy.roleName) →
      ∃ role, c.resource? o.policy.roleName = some role ∧
        role = (Resource.role
          (ExecutionRole.forEvents.grant (c.destinations.map (·.name)))).document ∧
        role.field? "Type" = some (.string "AWS::IAM::Role") ∧
        role.invocable? = some (.sequence (c.destinations.map fun d =>
          .record [("Fn::GetAtt", .strings [d.name, "Arn"])]))) ∧
    ((∃ d ∈ c.destinations, d.name = o.policy.roleName ∨ d.ruleName = o.policy.roleName) →
      ∃ before r after, s.writes o c.baseUrl = before ++ (o.policy.roleName, r) :: after ∧
        o.policy.roleName ∉ Entries.keys after ∧
        ((∃ d, r = .destination d) ∨ ∃ x, r = .rule x) ∧
        c.resource? o.policy.roleName = some r.document ∧
        r.document.field? "Type" ≠ some (.string "AWS::IAM::Role") ∧
        ∃ col ∈ c.collisions,
          col.name = o.policy.roleName ∧ col.existing.text = "shared resource") := by
  have hc := compiled_of_compile h
  constructor
  · intro hfree
    have hr : o.policy.roleName ∉ Entries.keys (s.operationResources o c.baseUrl) := by
      rw [hc.names_operationResources, List.mem_flatMap]
      rintro ⟨d, hd, hm⟩
      simp only [List.mem_cons, List.not_mem_nil, or_false] at hm
      rcases hm with hm | hm
      · exact (hfree d hd).1 hm.symm
      · exact (hfree d hd).2 hm.symm
    refine ⟨_, hc.resource?_of_inventory (hc.get?_inventory_role hr), rfl,
      Resource.field?_type _, ?_⟩
    rw [ExecutionRole.invocable?_document, List.map_map]
    rfl
  · rintro ⟨d, hd, hm⟩
    have hr : o.policy.roleName ∈ Entries.keys (s.operationResources o c.baseUrl) := by
      rw [hc.names_operationResources, List.mem_flatMap]
      refine ⟨d, hd, ?_⟩
      rcases hm with hm | hm
      · simp [hm]
      · simp [hm]
    obtain ⟨before, r, after, hw, ha, hb, hkind⟩ := hc.exists_last_write hr
    obtain ⟨col, hcol, hname, hshared⟩ := hc.exists_collision hr
    refine ⟨before, r, after, hw, ha, hkind,
      hc.resource?_of_inventory (get?_inventory_of_writes hc.nodup hw ha hb), ?_,
      col, hcol, hname, by rw [hshared, Origin.text]⟩
    rw [Resource.field?_type]
    rcases hkind with ⟨d, rfl⟩ | ⟨x, rfl⟩
    · simp [Resource.type]
    · simp [Resource.type]

/-- Options under which operations of `cacheApi` take the name of the role. -/
def takenRoleOptions : Options :=
  { cacheOptions with policy := { roleName := "ApiCachePut" } }

/-- A role that three destinations of one name are granted to, and a role that had to make way. -/
theorem role_permissions_cacheApi :
    (∃ c role, cacheApi.compile cacheOptions = .ok c ∧
      c.resource? "ApiDestinationsTargetRole" = some role ∧
      role.invocable? = some (.sequence
        (["ApiCachePut", "ApiCacheGet", "ApiCachePut", "ApiCachePut", "ApiCachePutPut"].map
          Value.address))) ∧
    ∃ c r, cacheApi.compile takenRoleOptions = .ok c ∧
      c.resource? "ApiCachePut" = some (Resource.document r) ∧
      r.document.field? "Type" ≠ some (.string "AWS::IAM::Role") ∧
      ∃ col ∈ c.collisions, col.name = "ApiCachePut" ∧ col.existing.text = "shared resource" := by
  constructor
  · obtain ⟨c, h⟩ := exists_ok_of_isOk
      (by decide +kernel : (cacheApi.compile cacheOptions).isOk = true)
    have hd := (compiled_of_compile h).destinations
    have hfree : ∀ d ∈ cacheApi.destinations cacheOptions,
        d.name ≠ cacheOptions.policy.roleName ∧ d.ruleName ≠ cacheOptions.policy.roleName := by
      decide +kernel
    have hnames : (cacheApi.destinations cacheOptions).map (·.name) =
        ["ApiCachePut", "ApiCacheGet", "ApiCachePut", "ApiCachePut", "ApiCachePutPut"] := by
      decide +kernel
    obtain ⟨role, hrole, -, -, hlist⟩ := (role_permissions h).1 (hd ▸ hfree)
    refine ⟨c, role, h, hrole, ?_⟩
    rw [hlist, ← hnames, hd, List.map_map]
    rfl
  · obtain ⟨c, h⟩ := exists_ok_of_isOk
      (by decide +kernel : (cacheApi.compile takenRoleOptions).isOk = true)
    have hd := (compiled_of_compile h).destinations
    have htaken : ∃ d ∈ cacheApi.destinations takenRoleOptions,
        d.name = takenRoleOptions.policy.roleName ∨
          d.ruleName = takenRoleOptions.policy.roleName := by
      decide +kernel
    obtain ⟨-, r, -, -, -, -, hr, htype, hcol⟩ := (role_permissions h).2 (hd ▸ htaken)
    exact ⟨c, r, h, hr, htype, hcol⟩

end Specification

end EventRouting
