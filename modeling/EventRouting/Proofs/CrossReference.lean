import EventRouting.Proofs.InvokePermission

/-!
# References between resources

Resources refer to each other by logical names, each under a field that asks for a resource of one
type. Every name that is referred to was written with a resource of the right type. Hence it is
always there, and as long as no name is used twice it is also of that type.
-/

namespace EventRouting

/-- A use of a logical name: the fields that lead to it, the outermost first, and the name. -/
structure Reference where
  place : List String
  name : String
deriving DecidableEq, Repr

namespace Reference

/-- Where a destination names its connection. -/
def connectionPlace : List String := ["Properties", "ConnectionArn"]

/-- Where a rule names its destination. -/
def targetPlace : List String := ["Properties", "Targets", "Arn"]

/-- Where a rule names its role. -/
def rolePlace : List String := ["Properties", "Targets", "RoleArn"]

/-- Where a rule names its queue. -/
def queuePlace : List String := ["Properties", "Targets", "DeadLetterConfig", "Arn"]

/-- Where a role names the destinations that it may invoke. -/
def invokePlace : List String :=
  ["Properties", "Policies", "PolicyDocument", "Statement", "Resource"]

/-- The type of resource that a place asks for. -/
def kind? (r : Reference) : Option String :=
  if r.place = connectionPlace then some "AWS::Events::Connection"
  else if r.place = rolePlace then some "AWS::IAM::Role"
  else if r.place = queuePlace then some "AWS::SQS::Queue"
  else if r.place = targetPlace ∨ r.place = invokePlace then some "AWS::Events::ApiDestination"
  else none

end Reference

namespace Value

/-- The place of what stands under a key. -/
def placeUnder (place : List String) : Value → List String
  | .string key => place ++ [key]
  | _ => place

section Mentions

-- How an entry of a mapping is read: as a mention of names, or else it is looked into.
variable (read : (key item : Value) → Option (List String)) (place : List String)

mutual

/-- The names that are mentioned in a value at a place. -/
def mentions (place : List String) : Value → List Reference
  | .mapping entries => entryMentions place entries
  | .sequence items => itemMentions place items
  | .tagged _ v => mentions place v
  | _ => []

/-- The names that are mentioned in the items of a sequence. -/
def itemMentions (place : List String) : List Value → List Reference
  | [] => []
  | item :: rest => mentions place item ++ itemMentions place rest

/-- The names that are mentioned by the entries of a mapping. -/
def entryMentions (place : List String) : List (Value × Value) → List Reference
  | [] => []
  | (key, item) :: rest =>
      (read key item).elim (mentions (placeUnder place key) item) (·.map (⟨place, ·⟩)) ++
        entryMentions place rest

end

@[simp] theorem mentions_string (s : String) : mentions read place (.string s) = [] := by
  simp [mentions]

@[simp] theorem mentions_nat (n : Nat) : mentions read place (.nat n) = [] := by
  simp [nat, mentions]

@[simp] theorem mentions_record_nil : mentions read place (record []) = [] := by
  simp [record, mentions, entryMentions]

@[simp] theorem mentions_record_cons (key : String) (item : Value)
    (fields : List (String × Value)) :
    mentions read place (record ((key, item) :: fields)) =
      (read (.string key) item).elim (mentions read (place ++ [key]) item) (·.map (⟨place, ·⟩)) ++
        mentions read place (record fields) := by
  simp [record, mentions, entryMentions, placeUnder]

theorem itemMentions_map {α : Type} (f : α → Value) (items : List α) :
    itemMentions read place (items.map f) = items.flatMap fun x => mentions read place (f x) := by
  induction items with
  | nil => simp [itemMentions]
  | cons x rest ih => simp [itemMentions, ih]

@[simp] theorem mentions_sequence_map {α : Type} (f : α → Value) (items : List α) :
    mentions read place (.sequence (items.map f)) =
      items.flatMap fun x => mentions read place (f x) := by
  rw [mentions, itemMentions_map]

@[simp] theorem mentions_singleton (item : Value) :
    mentions read place (.sequence [item]) = mentions read place item := by
  simp [mentions, itemMentions]

@[simp] theorem mentions_strings (items : List String) :
    mentions read place (.strings items) = [] := by
  simp [strings]

/-- Names and texts mention what their own entries mention. -/
theorem mentions_record_strings (fields : List (String × String)) :
    mentions read place (record (fields.map fun e => (e.1, .string e.2))) =
      fields.flatMap fun e =>
        ((read (.string e.1) (.string e.2)).getD []).map (⟨place, ·⟩) := by
  induction fields with
  | nil => simp
  | cons e rest ih =>
      cases h : read (.string e.1) (.string e.2) <;> simp [ih, h]

end Mentions

/-- The name that an entry refers to: `Fn::GetAtt` stands before a name and an attribute. -/
def getAtt? (key : Value) : Value → Option (List String)
  | .sequence (.string name :: _) => if key == .string "Fn::GetAtt" then some [name] else none
  | _ => none

/-- The references in a value that stands at a place. -/
abbrev references (place : List String) (v : Value) : List Reference :=
  mentions getAtt? place v

@[simp] theorem getAtt?_of_ne {key : String} (h : key ≠ "Fn::GetAtt") (item : Value) :
    getAtt? (.string key) item = none := by
  unfold getAtt?
  split
  · simp [h]
  · rfl

@[simp] theorem getAtt?_string (key : Value) (text : String) :
    getAtt? key (.string text) = none := rfl

variable (place : List String)

/-- The address of a resource is a reference to it. -/
@[simp] theorem references_address (name : String) :
    references place (.address name) = [⟨place, name⟩] := by
  simp [address, strings, getAtt?]

/-- Names and texts refer to nothing, whatever the names are. -/
@[simp] theorem references_record_strings (fields : List (String × String)) :
    references place (record (fields.map fun e => (e.1, .string e.2))) = [] := by
  simp [mentions_record_strings]

end Value

open Value Reference

theorem Destination.references_document (d : Destination) :
    (Resource.destination d).document.references [] = [⟨connectionPlace, d.connection⟩] := by
  simp [Resource.document, Resource.properties?, Destination.document, connectionPlace]

theorem Connection.references_document (c : Connection) :
    (Resource.connection c).document.references [] = [] := by
  simp [Resource.document, Resource.properties?, Connection.document]

theorem Target.references_bodyDocument (place : List String) :
    Target.bodyDocument.references place = [] := by
  simp [Target.bodyDocument]

theorem Target.references_parameterFields (place : List String) (t : Target) :
    (Value.record t.parameterFields).references place = [] := by
  unfold Target.parameterFields
  by_cases hp : t.pathValues.isEmpty
  · by_cases hq : t.query.isEmpty <;> simp [hp, hq]
  · by_cases hq : t.query.isEmpty <;> simp [hp, hq]

theorem Target.references_document (t : Target) (place : List String) :
    t.document.references place =
      [⟨place ++ ["Arn"], t.destination⟩, ⟨place ++ ["RoleArn"], t.role⟩,
        ⟨place ++ ["DeadLetterConfig", "Arn"], t.queue⟩] := by
  unfold Target.document
  by_cases hb : t.forwardsBody
  · by_cases hp : t.parameterFields.isEmpty <;>
      simp [hb, hp, Target.references_bodyDocument, Target.references_parameterFields]
  · by_cases hp : t.parameterFields.isEmpty <;>
      simp [hb, hp, Target.references_parameterFields]

theorem Rule.references_document (r : Rule) :
    (Resource.rule r).document.references [] =
      [⟨targetPlace, r.target.destination⟩, ⟨rolePlace, r.target.role⟩,
        ⟨queuePlace, r.target.queue⟩] := by
  simp [Resource.document, Resource.properties?, Rule.document, Target.references_document,
    targetPlace, rolePlace, queuePlace]

theorem Attribute.references_document (place : List String) (a : Attribute) :
    a.document.references place = [⟨place, a.resource⟩] := by
  simp [document, strings, getAtt?]

/-- A role refers to what it may invoke, and to nothing else. -/
theorem ExecutionRole.references_document (r : ExecutionRole) :
    (Resource.role r).document.references [] = r.invocable.map fun name => ⟨invokePlace, name⟩ := by
  rw [List.map_eq_flatMap]
  simp [Resource.document, Resource.properties?, ExecutionRole.document, TrustPolicy.document,
    TrustStatement.document, Value.policyDocument, InlinePolicy.document, Statement.document,
    Attribute.references_document, invocable, invokePlace, List.flatMap_assoc, List.flatMap_map]

theorem ExecutionRole.invocable_grant (destinations : List String) :
    (forEvents.grant destinations).invocable = destinations := by
  simp [forEvents, grant, InlinePolicy.grant, Statement.grant, invocable]

theorem Inventory.type_grantResource (destinations : List String) (r : Resource) :
    (grantResource destinations r).type = r.type := by
  cases r <;> rfl

namespace Specification

variable {s : Specification} {o : Options} {baseUrl : String}

/-- Each generated operation writes its destination. -/
theorem mem_resources_destination (hn : o.policy.sharedNames.Nodup) {a : AcceptedOperation}
    (ha : a ∈ s.generated o.methods) :
    (a.name o, .destination ((a.endpoint s.reusableQuery o baseUrl).destination o.policy)) ∈
      s.resources o baseUrl := by
  rw [resources_eq hn, List.mem_append]
  exact Or.inr (mem_operationResources.mpr ⟨a, ha, Or.inl rfl⟩)

/-- Each generated operation writes its rule. -/
theorem mem_resources_rule (hn : o.policy.sharedNames.Nodup) {a : AcceptedOperation}
    (ha : a ∈ s.generated o.methods) :
    (a.ruleName o, .rule ((a.endpoint s.reusableQuery o baseUrl).rule o.policy)) ∈
      s.resources o baseUrl := by
  rw [resources_eq hn, List.mem_append]
  exact Or.inr (mem_operationResources.mpr ⟨a, ha, Or.inr rfl⟩)

theorem mem_resources_shared (hn : o.policy.sharedNames.Nodup) {e : String × Resource}
    (he : e ∈ o.policy.sharedResources) : e ∈ s.resources o baseUrl := by
  rw [resources_eq hn, List.mem_append]
  exact Or.inl he

/-- A name that is referred to was written with a resource of the type that is asked for. -/
def Written (s : Specification) (o : Options) (baseUrl : String) (ref : Reference) : Prop :=
  ∃ r, (ref.name, r) ∈ s.resources o baseUrl ∧ ref.kind? = some r.type

theorem written_connection (hn : o.policy.sharedNames.Nodup) :
    s.Written o baseUrl ⟨connectionPlace, o.policy.connectionName⟩ :=
  ⟨.connection ⟨o.policy.apiKeyName, o.policy.credentialParameter⟩,
    mem_resources_shared hn (by simp [Policy.sharedResources]), rfl⟩

theorem written_role (hn : o.policy.sharedNames.Nodup) :
    s.Written o baseUrl ⟨rolePlace, o.policy.roleName⟩ :=
  ⟨.role .forEvents, mem_resources_shared hn (by simp [Policy.sharedResources]), rfl⟩

theorem written_queue (hn : o.policy.sharedNames.Nodup) :
    s.Written o baseUrl ⟨queuePlace, o.policy.queueName⟩ :=
  ⟨.queue, mem_resources_shared hn (by simp [Policy.sharedResources]), rfl⟩

theorem written_target (hn : o.policy.sharedNames.Nodup) {a : AcceptedOperation}
    (ha : a ∈ s.generated o.methods) : s.Written o baseUrl ⟨targetPlace, a.name o⟩ :=
  ⟨_, mem_resources_destination hn ha, rfl⟩

theorem written_invoke (hn : o.policy.sharedNames.Nodup) {a : AcceptedOperation}
    (ha : a ∈ s.generated o.methods) : s.Written o baseUrl ⟨invokePlace, a.name o⟩ :=
  ⟨_, mem_resources_destination hn ha, rfl⟩

/-- The resources that a description generates. -/
inductive Generates (s : Specification) (o : Options) (baseUrl : String) : Resource → Prop
  | role : Generates s o baseUrl
      (.role (ExecutionRole.forEvents.grant ((s.destinations o).map (·.name))))
  | queue : Generates s o baseUrl .queue
  | connection : Generates s o baseUrl
      (.connection ⟨o.policy.apiKeyName, o.policy.credentialParameter⟩)
  | destination {a : AcceptedOperation} (generated : a ∈ s.generated o.methods) :
      Generates s o baseUrl
        (.destination ((a.endpoint s.reusableQuery o baseUrl).destination o.policy))
  | rule {a : AcceptedOperation} (generated : a ∈ s.generated o.methods) :
      Generates s o baseUrl (.rule ((a.endpoint s.reusableQuery o baseUrl).rule o.policy))

/-- An inventory holds nothing but generated resources. -/
theorem generates_of_inventory (hn : o.policy.sharedNames.Nodup) {name : String} {r : Resource}
    (hr : (s.inventory o baseUrl).get? name = some r) : s.Generates o baseUrl r := by
  rw [get?_inventory, Option.map_eq_some_iff] at hr
  obtain ⟨w, hw, rfl⟩ := hr
  obtain ⟨before, after, he, -⟩ := Entries.get?_reverse_eq_some_iff.mp hw
  have hm : (name, w) ∈ s.resources o baseUrl := by simp [he]
  rw [resources_eq hn, List.mem_append] at hm
  -- Only the role is changed by the grant, and it has a name of its own among the shared ones.
  rcases hm with hm | hm
  · simp only [Policy.sharedResources, List.mem_cons, Prod.mk.injEq, List.not_mem_nil,
      or_false] at hm
    rcases hm with ⟨rfl, rfl⟩ | ⟨rfl, rfl⟩ | ⟨rfl, rfl⟩
    · rw [if_pos rfl]
      exact .role
    · simp only [Inventory.grantResource, ite_self]
      exact .queue
    · simp only [Inventory.grantResource, ite_self]
      exact .connection
  · obtain ⟨a, ha, hm | hm⟩ := mem_operationResources.mp hm
    · obtain ⟨-, rfl⟩ := Prod.mk.inj hm
      simp only [Inventory.grantResource, ite_self]
      exact .destination ha
    · obtain ⟨-, rfl⟩ := Prod.mk.inj hm
      simp only [Inventory.grantResource, ite_self]
      exact .rule ha

/-- Whatever an inventory holds refers to names that were written with resources of the right
types. -/
theorem written_of_inventory (hn : o.policy.sharedNames.Nodup) {name : String} {r : Resource}
    (hr : (s.inventory o baseUrl).get? name = some r) {ref : Reference}
    (h : ref ∈ r.document.references []) : s.Written o baseUrl ref := by
  cases generates_of_inventory hn hr with
  | role =>
      simp only [ExecutionRole.references_document, ExecutionRole.invocable_grant, destinations,
        List.mem_map] at h
      obtain ⟨_, ⟨_, ⟨a, ha, rfl⟩, rfl⟩, rfl⟩ := h
      exact written_invoke hn ha
  | queue => simp [Resource.document, Resource.properties?] at h
  | connection => simp [Connection.references_document] at h
  | destination ha =>
      rw [Destination.references_document, List.mem_singleton] at h
      subst h
      exact written_connection hn
  | rule ha =>
      simp only [Rule.references_document, List.mem_cons, List.not_mem_nil, or_false] at h
      rcases h with rfl | rfl | rfl
      · exact written_target hn ha
      · exact written_role hn
      · exact written_queue hn

/-- Where no name repeats, every write stays, apart from what is granted to the role. -/
theorem get?_inventory_of_mem (hk : (Entries.keys (s.resources o baseUrl)).Nodup)
    {name : String} {r : Resource} (h : (name, r) ∈ s.resources o baseUrl) :
    (s.inventory o baseUrl).get? name =
      some (if name = o.policy.roleName then
        Inventory.grantResource ((s.destinations o).map (·.name)) r else r) := by
  rw [get?_inventory, Entries.get?_reverse_of_nodup hk,
    (Entries.get?_eq_some_iff_mem hk).mpr h, Option.map_some]

theorem exists_of_mem_keys {name : String}
    (h : name ∈ Entries.keys (s.resources o baseUrl)) :
    ∃ r, (s.inventory o baseUrl).get? name = some r := by
  rw [← mem_names_inventory, OrderedMap.mem_names_iff, OrderedMap.contains] at h
  exact Option.isSome_iff_exists.mp h

namespace Compiled

variable {c : Compilation}

/-- Every name that the report uses stands for a generated resource. -/
theorem exists_of_mem_usedNames (h : s.Compiled o c) {name : String}
    (hm : name ∈ Entries.keys (c.usedNames o.policy)) :
    ∃ r, (s.inventory o c.baseUrl).get? name = some r ∧ c.resource? name = some r.document := by
  rw [h.keys_usedNames] at hm
  obtain ⟨r, hr⟩ := exists_of_mem_keys hm
  exact ⟨r, hr, h.resource?_of_inventory hr⟩

/-- Where no name repeats, a name that is referred to stands for a resource of the type that is
asked for. -/
theorem kind_of_written (h : s.Compiled o c)
    (hk : (Entries.keys (s.resources o c.baseUrl)).Nodup) {ref : Reference}
    (hw : s.Written o c.baseUrl ref) :
    ∃ kind target, ref.kind? = some kind ∧ c.resource? ref.name = some target ∧
      target.field? "Type" = some (.string kind) := by
  obtain ⟨r, hr, hkind⟩ := hw
  have hget := get?_inventory_of_mem hk hr
  refine ⟨r.type, _, hkind, h.resource?_of_inventory hget, ?_⟩
  rw [Resource.field?_type]
  split
  · rw [Inventory.type_grantResource]
  · rfl

/-- Where no name repeats, every operation keeps its destination and its rule. -/
theorem resources_of_generated (h : s.Compiled o c)
    (hk : (Entries.keys (s.resources o c.baseUrl)).Nodup) {a : AcceptedOperation}
    (ha : a ∈ s.generated o.methods) :
    c.resource? (a.name o) = some (Resource.destination
        ((a.endpoint s.reusableQuery o c.baseUrl).destination o.policy)).document ∧
      c.resource? (a.ruleName o) = some (Resource.rule
        ((a.endpoint s.reusableQuery o c.baseUrl).rule o.policy)).document := by
  have hd := get?_inventory_of_mem hk (mem_resources_destination h.nodup ha)
  have hr := get?_inventory_of_mem hk (mem_resources_rule h.nodup ha)
  simp only [Inventory.grantResource, ite_self] at hd hr
  exact ⟨h.resource?_of_inventory hd, h.resource?_of_inventory hr⟩

end Compiled

/-- Every name that a generated resource refers to stands for a generated resource. If no collision
is reported it is of the type that is asked for, and every destination has a rule of its own, whose
only target it is. -/
theorem references_resolve {c : Compilation} (h : s.compile o = .ok c) :
    (∀ name ∈ Entries.keys (c.usedNames o.policy), ∃ v, c.resource? name = some v ∧
      ∀ ref ∈ v.references [], ∃ r, (s.inventory o c.baseUrl).get? ref.name = some r ∧
        c.resource? ref.name = some r.document) ∧
    (c.collisions = [] →
      (∀ name ∈ Entries.keys (c.usedNames o.policy), ∀ v, c.resource? name = some v →
        ∀ ref ∈ v.references [], ∃ kind target, ref.kind? = some kind ∧
          c.resource? ref.name = some target ∧ target.field? "Type" = some (.string kind)) ∧
      (c.destinations.flatMap fun d => [d.name, d.ruleName]).Nodup ∧
      ∀ d ∈ c.destinations, ∃ a ∈ s.generated o.methods, ∃ rule, a.destination o = d ∧
        c.resource? d.name = some (Resource.destination
          ((a.endpoint s.reusableQuery o c.baseUrl).destination o.policy)).document ∧
        c.resource? d.ruleName = some rule ∧
        rule = (Resource.rule
          ((a.endpoint s.reusableQuery o c.baseUrl).rule o.policy)).document ∧
        (rule.references []).filter (·.place = targetPlace) = [⟨targetPlace, d.name⟩]) := by
  have hc := compiled_of_compile h
  constructor
  · intro name hname
    obtain ⟨r, hr, hv⟩ := hc.exists_of_mem_usedNames hname
    refine ⟨r.document, hv, fun ref href => ?_⟩
    obtain ⟨w, hw, -⟩ := written_of_inventory hc.nodup hr href
    obtain ⟨target, htarget⟩ := exists_of_mem_keys (Entries.mem_keys_of_mem hw)
    exact ⟨target, htarget, hc.resource?_of_inventory htarget⟩
  · intro hnil
    have hused := hc.collisions_eq_nil_iff.mp hnil
    have hk := hc.keys_usedNames ▸ hused
    refine ⟨fun name hname v hv ref href => ?_, ?_, fun d hd => ?_⟩
    · obtain ⟨r, hr, hdocument⟩ := hc.exists_of_mem_usedNames hname
      obtain rfl := Option.some.inj (hv.symm.trans hdocument)
      exact hc.kind_of_written hk (written_of_inventory hc.nodup hr href)
    · rw [c.keys_usedNames, List.nodup_append] at hused
      exact hused.2.1
    · rw [hc.destinations, Specification.destinations, List.mem_map] at hd
      obtain ⟨a, ha, rfl⟩ := hd
      obtain ⟨hdestination, hrule⟩ := hc.resources_of_generated hk ha
      refine ⟨a, ha, _, rfl, hdestination, hrule, rfl, ?_⟩
      rw [Rule.references_document]
      rfl

/-- Options under which all names of `cacheApi` differ. The blueprint has a connection already. -/
def distinctOptions : Options where
  methods := .parse "get,post"
  namePrefix := "Api"
  blueprint := some (.record [("Resources", .record [("ApiConnection", .null)])])

/-- A rule refers to its destination, the role and the queue, and all references are of the right
types. -/
theorem references_resolve_cacheApi :
    ∃ c rule, cacheApi.compile distinctOptions = .ok c ∧ c.collisions = [] ∧
      c.resource? "ApiTopicsPostRule" = some rule ∧
      rule.references [] =
        [⟨targetPlace, "ApiTopicsPost"⟩, ⟨rolePlace, "ApiDestinationsTargetRole"⟩,
          ⟨queuePlace, "FailedDeliveryDLQ"⟩] ∧
      ∀ ref ∈ rule.references [], ∃ kind target, ref.kind? = some kind ∧
        c.resource? ref.name = some target ∧ target.field? "Type" = some (.string kind) := by
  obtain ⟨c, h⟩ := exists_ok_of_isOk
    (by decide +kernel : (cacheApi.compile distinctOptions).isOk = true)
  have hc := compiled_of_compile h
  have hnil : c.collisions = [] := by
    rw [hc.collisions]
    decide +kernel
  have hd : ⟨"ApiTopicsPost", "ApiTopicsPostRule", "/topics/\x7btopic\x7d", "post", "publish"⟩ ∈
      c.destinations := by
    rw [hc.destinations]
    decide +kernel
  obtain ⟨htyped, -, hown⟩ := (references_resolve h).2 hnil
  obtain ⟨a, -, rule, ha, -, hrule, hdocument, -⟩ := hown _ hd
  refine ⟨c, rule, h, hnil, hrule, ?_, htyped _ ?_ rule hrule⟩
  · rw [hdocument, Rule.references_document]
    have hname : a.name distinctOptions = "ApiTopicsPost" := congrArg GeneratedDestination.name ha
    simp only [Endpoint.rule, Endpoint.target, AcceptedOperation.endpoint, hname]
    rfl
  · rw [c.keys_usedNames, List.mem_append, List.mem_flatMap]
    exact Or.inr ⟨_, hd, by simp⟩

end Specification

end EventRouting
