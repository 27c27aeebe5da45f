import EventRouting.Proofs.OperationAccount
import EventRouting.Proofs.PathLayout
import Mathlib.Data.Prod.Basic

/-!
# What documents tell

The document of a resource tells the resource. Fields that are left out when they are empty are no
exception, because none of them is ever written empty. So the two documents of an endpoint tell how
its operation is called: two endpoints of one name and one base URL have the same documents exactly
if they agree on all that an event needs to reach the operation.
-/

namespace EventRouting

theorem Entries.get?_map {β γ : Type} (f : β → γ) (name : String) (entries : List (String × β)) :
    get? name (entries.map fun e => (e.1, f e.2)) = (get? name entries).map f := by
  induction entries with
  | nil => rfl
  | cons e rest ih => by_cases h : e.1 = name <;> simp [get?, h, ih]

namespace Value

@[simp] theorem record_inj {fs gs : List (String × Value)} : record fs = record gs ↔ fs = gs := by
  have hname : Function.Injective string := fun _ _ => string.inj
  have hentry : Function.Injective fun f : String × Value => (string f.1, f.2) :=
    hname.prodMap Function.injective_id
  rw [record, record, mapping.injEq]
  exact (List.map_injective_iff.mpr hentry).eq_iff

@[simp] theorem strings_inj {xs ys : List String} : strings xs = strings ys ↔ xs = ys := by
  have hitem : Function.Injective string := fun _ _ => string.inj
  rw [strings, strings, sequence.injEq]
  exact (List.map_injective_iff.mpr hitem).eq_iff

@[simp] theorem address_inj {a b : String} : address a = address b ↔ a = b := by
  simp [address]

@[simp] theorem nat_inj {m n : Nat} : nat m = nat n ↔ m = n := by
  rw [nat, nat, number.injEq, Number.int.injEq, Int.ofNat_inj]

section LeftOut

variable {α β : Type} {f : List α → β} {xs ys : List α}

/-- Items that are left out when there are none are still told. -/
theorem eq_of_left_out (hf : Function.Injective f)
    (h : (if xs.isEmpty then none else some (f xs)) =
      if ys.isEmpty then none else some (f ys)) : xs = ys := by
  cases xs with
  | nil =>
      cases ys with
      | nil => rfl
      | cons y ys => simp at h
  | cons x xs =>
      cases ys with
      | nil => simp at h
      | cons y ys => exact hf (by simpa using h)

/-- Items that are left out when there are none are never written empty. -/
theorem of_left_out {b : β} (h : (if xs.isEmpty then none else some (f xs)) = some b) :
    xs ≠ [] ∧ f xs = b := by
  cases xs with
  | nil => simp at h
  | cons x xs => exact ⟨by simp, by simpa using h⟩

end LeftOut

/-- A mapping with entries, or a sequence with items. -/
def Filled : Value → Prop
  | .mapping entries => entries ≠ []
  | .sequence items => items ≠ []
  | _ => False

theorem filled_record {fields : List (String × Value)} : (record fields).Filled ↔ fields ≠ [] := by
  simp [record, Filled]

theorem filled_strings {items : List String} : (strings items).Filled ↔ items ≠ [] := by
  simp [strings, Filled]

/-- The only target of a rule, as a template holds the rule. -/
def target? (rule : Value) : Option Value := do
  (← (← rule.field? "Properties").field? "Targets").first?

end Value

open Value

theorem detailExpression_injective : Function.Injective detailExpression := fun _ _ h =>
  (String.append_right_inj _).mp h

theorem Destination.document_injective : Function.Injective Destination.document := by
  rintro ⟨connection, method, endpoint, rate⟩ ⟨connection', method', endpoint', rate'⟩ h
  simpa [document] using h

namespace Target

/-- What a target holds in any case. -/
theorem field?_fixed (t : Target) :
    t.document.field? "Id" = some (.string t.id) ∧
      t.document.field? "Arn" = some (.address t.destination) ∧
      t.document.field? "RoleArn" = some (.address t.role) ∧
      t.document.field? "DeadLetterConfig" = some (.record [("Arn", .address t.queue)]) := by
  rw [document]
  simp only [field?_record]
  cases t.forwardsBody <;> cases t.parameterFields.isEmpty <;> simp [Entries.get?]

theorem field?_inputTransformer (t : Target) :
    t.document.field? "InputTransformer" = if t.forwardsBody then some bodyDocument else none := by
  rw [document, field?_record]
  cases t.forwardsBody <;> cases t.parameterFields.isEmpty <;> simp [Entries.get?]

/-- The names of a query and their expressions, as a target holds them. -/
def queryDocument (entries : List (String × String)) : Value :=
  .record (entries.map fun e => (e.1, .string e.2))

theorem queryDocument_injective : Function.Injective queryDocument := by
  have htext : Function.Injective Value.string := fun _ _ => Value.string.inj
  have hentry : Function.Injective fun e : String × String => (e.1, Value.string e.2) :=
    Function.injective_id.prodMap htext
  intro entries entries' h
  exact (List.map_injective_iff.mpr hentry) (record_inj.mp h)

theorem get?_pathParameterValues (t : Target) :
    Entries.get? "PathParameterValues" t.parameterFields =
      if t.pathValues.isEmpty then none else some (.strings t.pathValues) := by
  rw [parameterFields]
  cases t.pathValues.isEmpty <;> cases t.query.isEmpty <;> simp [Entries.get?]

theorem get?_queryStringParameters (t : Target) :
    Entries.get? "QueryStringParameters" t.parameterFields =
      if t.query.entries.isEmpty then none else some (queryDocument t.query.entries) := by
  rw [parameterFields, OrderedMap.isEmpty]
  cases t.pathValues.isEmpty <;> cases t.query.entries.isEmpty <;>
    simp [Entries.get?, queryDocument]

section Parameters

variable {t : Target} {v : Value}

theorem parameterFields_eq_nil_iff :
    t.parameterFields = [] ↔ t.pathValues = [] ∧ t.query.entries = [] := by
  rw [parameterFields, OrderedMap.isEmpty]
  cases t.pathValues <;> cases t.query.entries <;> simp

theorem isSome_httpParameters_iff :
    (t.document.field? "HttpParameters").isSome = true ↔
      t.pathValues ≠ [] ∨ t.query.entries ≠ [] := by
  have hnone : (t.document.field? "HttpParameters").isSome = true ↔ t.parameterFields ≠ [] := by
    rw [field?_httpParameters]
    cases t.parameterFields <;> simp
  rw [hnone, ne_eq, parameterFields_eq_nil_iff, not_and_or]

theorem filled_httpParameters (h : t.document.field? "HttpParameters" = some v) :
    v.Filled ∧ v = .record t.parameterFields := by
  rw [field?_httpParameters] at h
  obtain ⟨hne, rfl⟩ := of_left_out h
  exact ⟨filled_record.mpr hne, rfl⟩

theorem filled_pathParameterValues
    (h : (record t.parameterFields).field? "PathParameterValues" = some v) : v.Filled := by
  rw [field?_record, get?_pathParameterValues] at h
  obtain ⟨hne, rfl⟩ := of_left_out h
  exact filled_strings.mpr hne

/-- Every name of the query reads back its expression, so no two of them were merged. -/
theorem filled_queryStringParameters
    (h : (record t.parameterFields).field? "QueryStringParameters" = some v) :
    v.Filled ∧ ∀ name, v.field? name = (t.query.get? name).map .string := by
  rw [field?_record, get?_queryStringParameters] at h
  obtain ⟨hne, rfl⟩ := of_left_out h
  refine ⟨filled_record.mpr (by simpa using hne), fun name => ?_⟩
  rw [queryDocument, field?_record, Entries.get?_map, OrderedMap.get?]

end Parameters

theorem eq_of_parameterFields_eq {t t' : Target} (h : t.parameterFields = t'.parameterFields) :
    t.pathValues = t'.pathValues ∧ t.query = t'.query := by
  have hfield : ∀ name,
      Entries.get? name t.parameterFields = Entries.get? name t'.parameterFields := by
    simp [h]
  have hvalues := hfield "PathParameterValues"
  have hquery := hfield "QueryStringParameters"
  rw [get?_pathParameterValues, get?_pathParameterValues] at hvalues
  rw [get?_queryStringParameters, get?_queryStringParameters] at hquery
  exact ⟨eq_of_left_out (fun _ _ => strings_inj.mp) hvalues,
    OrderedMap.ext (eq_of_left_out queryDocument_injective hquery)⟩

theorem document_injective : Function.Injective document := by
  intro t t' h
  have hfield : ∀ name, t.document.field? name = t'.document.field? name := by
    simp [h]
  obtain ⟨hid, hdestination, hrole, hqueue⟩ :
      t.id = t'.id ∧ t.destination = t'.destination ∧ t.role = t'.role ∧ t.queue = t'.queue := by
    obtain ⟨h₁, h₂, h₃, h₄⟩ := t.field?_fixed
    obtain ⟨h₁', h₂', h₃', h₄'⟩ := t'.field?_fixed
    rw [hfield] at h₁ h₂ h₃ h₄
    simp_all
  have hbody : t.forwardsBody = t'.forwardsBody := by
    have hb := hfield "InputTransformer"
    rw [field?_inputTransformer, field?_inputTransformer] at hb
    cases ht : t.forwardsBody <;> cases ht' : t'.forwardsBody <;> simp [ht, ht'] at hb ⊢
  have hparameters : t.parameterFields = t'.parameterFields := by
    have hp := hfield "HttpParameters"
    rw [field?_httpParameters, field?_httpParameters] at hp
    exact eq_of_left_out (fun _ _ => record_inj.mp) hp
  obtain ⟨hvalues, hquery⟩ := eq_of_parameterFields_eq hparameters
  cases t
  cases t'
  simp_all

end Target

theorem Rule.document_injective : Function.Injective Rule.document := by
  rintro ⟨eventBus, trigger, target⟩ ⟨eventBus', trigger', target'⟩ h
  simpa [document, Target.document_injective.eq_iff] using h

theorem Rule.target?_document (r : Rule) :
    (Resource.rule r).document.target? = some r.target.document := by
  simp [Resource.document, Resource.properties?, document, Value.target?, field?_record_cons,
    first?]

theorem Attribute.document_injective : Function.Injective Attribute.document := by
  rintro ⟨resource, name⟩ ⟨resource', name'⟩ h
  simpa [document] using h

theorem TrustStatement.document_injective : Function.Injective TrustStatement.document := by
  rintro ⟨effect, service, action⟩ ⟨effect', service', action'⟩ h
  simpa [document] using h

theorem TrustPolicy.document_injective : Function.Injective TrustPolicy.document := by
  rintro ⟨version, statements⟩ ⟨version', statements'⟩ h
  simpa [document, policyDocument,
    (List.map_injective_iff.mpr TrustStatement.document_injective).eq_iff] using h

theorem Statement.document_injective : Function.Injective Statement.document := by
  rintro ⟨effect, actions, resources⟩ ⟨effect', actions', resources'⟩ h
  simpa [document, (List.map_injective_iff.mpr Attribute.document_injective).eq_iff] using h

theorem InlinePolicy.document_injective : Function.Injective InlinePolicy.document := by
  rintro ⟨name, version, statements⟩ ⟨name', version', statements'⟩ h
  simpa [document, policyDocument, (List.map_injective_iff.mpr Statement.document_injective).eq_iff]
    using h

theorem ExecutionRole.document_injective : Function.Injective ExecutionRole.document := by
  rintro ⟨trust, path, policies⟩ ⟨trust', path', policies'⟩ h
  simpa [document, TrustPolicy.document_injective.eq_iff,
    (List.map_injective_iff.mpr InlinePolicy.document_injective).eq_iff] using h

theorem Connection.document_injective : Function.Injective Connection.document := by
  rintro ⟨keyName, parameter⟩ ⟨keyName', parameter'⟩ h
  simpa [document, substitution] using h

namespace Resource

/-- A document holds the type and, as far as there are any, the properties. -/
theorem document_eq_iff {r r' : Resource} :
    r.document = r'.document ↔ r.type = r'.type ∧ r.properties? = r'.properties? := by
  rw [document, document, record_inj, List.cons.injEq]
  cases r.properties? <;> cases r'.properties? <;> simp

theorem document_injective : Function.Injective document := by
  intro r r' h
  obtain ⟨htype, hproperties⟩ := document_eq_iff.mp h
  -- The type leaves the pairs of one kind, and the properties of a kind tell the rest.
  cases r <;> cases r' <;> simp [type, properties?] at htype hproperties ⊢
  · exact Destination.document_injective hproperties
  · exact Rule.document_injective hproperties
  · exact ExecutionRole.document_injective hproperties
  · exact Connection.document_injective hproperties

end Resource

namespace Endpoint

/-- The two resources of an endpoint, as a template holds them. -/
def documents (e : Endpoint) (p : Policy) : List (String × Value) :=
  (e.resources p).map fun r => (r.1, r.2.document)

/-- Two endpoints agree on all that an event needs to reach the operation, apart from the name of
the destination and the base URL. -/
structure SameCall (e e' : Endpoint) : Prop where
  method : Text.upper e.method = Text.upper e'.method
  wildcardPath : e.wildcardPath = e'.wildcardPath
  trigger : e.operation.trigger? = e'.operation.trigger?
  parameters : PathTemplate.parameters e.path = PathTemplate.parameters e'.path
  query : e.query.entries = e'.query.entries
  body : e.operation.hasRequestBody = e'.operation.hasRequestBody

variable {e e' : Endpoint} {p : Policy}

theorem destination_eq_iff (hu : e.baseUrl = e'.baseUrl) :
    e.destination p = e'.destination p ↔
      Text.upper e.method = Text.upper e'.method ∧ e.wildcardPath = e'.wildcardPath := by
  simp [destination, hu, String.append_right_inj]

/-- The empty identifier counts as none, so the one that events carry tells whether there is one. -/
theorem trigger_eq_iff : e.trigger = e'.trigger ↔ e.operation.trigger? = e'.operation.trigger? := by
  have hne : ∀ op : Operation, op.trigger? ≠ some "" := fun op h =>
    (Operation.trigger?_eq_some_iff.mp h).2 rfl
  have h := hne e.operation
  have h' := hne e'.operation
  rw [trigger, trigger]
  generalize e.operation.trigger? = t at h ⊢
  generalize e'.operation.trigger? = t' at h' ⊢
  cases t <;> cases t' <;> simp_all [eq_comm]

theorem rule_eq_iff (hn : e.name = e'.name) :
    e.rule p = e'.rule p ↔
      e.operation.trigger? = e'.operation.trigger? ∧
        PathTemplate.parameters e.path = PathTemplate.parameters e'.path ∧
        e.query = e'.query ∧ e.operation.hasRequestBody = e'.operation.hasRequestBody := by
  have hvalues : ∀ names names' : List String,
      names.map detailExpression = names'.map detailExpression ↔ names = names' := fun _ _ =>
    (List.map_injective_iff.mpr detailExpression_injective).eq_iff
  rw [rule, rule, Rule.mk.injEq, target, target, Target.mk.injEq, ← trigger_eq_iff, hvalues]
  constructor
  · rintro ⟨-, htrigger, -, -, -, -, hbody, hparameters, hquery⟩
    exact ⟨htrigger, hparameters, hquery, hbody⟩
  · rintro ⟨htrigger, hparameters, hquery, hbody⟩
    exact ⟨rfl, htrigger, by rw [htrigger], hn, rfl, rfl, hbody, hparameters, hquery⟩

theorem documents_eq_iff_resources_eq :
    e.documents p = e'.documents p ↔ e.resources p = e'.resources p := by
  have hentry : Function.Injective fun r : String × Resource => (r.1, r.2.document) :=
    Function.injective_id.prodMap Resource.document_injective
  exact (List.map_injective_iff.mpr hentry).eq_iff

theorem resources_eq_iff (hn : e.name = e'.name) (hu : e.baseUrl = e'.baseUrl) :
    e.resources p = e'.resources p ↔ e.SameCall e' := by
  have hparts : e.resources p = e'.resources p ↔
      e.destination p = e'.destination p ∧ e.rule p = e'.rule p := by
    simp [resources, hn]
  rw [hparts, destination_eq_iff hu, rule_eq_iff hn]
  constructor
  · rintro ⟨⟨method, wildcardPath⟩, trigger, parameters, query, body⟩
    exact ⟨method, wildcardPath, trigger, parameters, congrArg _ query, body⟩
  · rintro ⟨method, wildcardPath, trigger, parameters, query, body⟩
    exact ⟨⟨method, wildcardPath⟩, trigger, parameters, OrderedMap.ext query, body⟩

end Endpoint

/-- The documents of an endpoint tell how its operation is called. Endpoints of one name and one
base URL have the same documents exactly if they agree in all else: the uppercased method, the
wildcard path, the identifier of the operation, the names of the path's parameters, the query, and
whether a body is declared. The target of the rule holds parameters exactly if the path or the query
has any, and it holds nothing that is empty. -/
theorem Endpoint.documents_tell (p : Policy) :
    (∀ e e' : Endpoint, e.name = e'.name → e.baseUrl = e'.baseUrl →
      (e.documents p = e'.documents p ↔ e.SameCall e')) ∧
    ∀ e : Endpoint, ∃ destination rule target,
      e.documents p = [(e.name, destination), (LogicalName.rule e.name p.ruleSuffix, rule)] ∧
        rule.target? = some target ∧
        ((target.field? "HttpParameters").isSome = true ↔
          PathTemplate.parameters e.path ≠ [] ∨ e.query.entries ≠ []) ∧
        ∀ parameters, target.field? "HttpParameters" = some parameters →
          parameters.Filled ∧
            (∀ v, parameters.field? "PathParameterValues" = some v → v.Filled) ∧
            ∀ v, parameters.field? "QueryStringParameters" = some v →
              v.Filled ∧ ∀ name, v.field? name = (e.query.get? name).map .string := by
  refine ⟨fun e e' hn hu => ?_, fun e => ?_⟩
  · rw [documents_eq_iff_resources_eq, resources_eq_iff hn hu]
  · refine ⟨_, _, (e.target p).document, rfl, Rule.target?_document _, ?_, fun parameters h => ?_⟩
    · rw [Target.isSome_httpParameters_iff, target, ne_eq, List.map_eq_nil_iff]
    · obtain ⟨hfilled, rfl⟩ := Target.filled_httpParameters h
      exact ⟨hfilled, fun _ => Target.filled_pathParameterValues,
        fun _ => Target.filled_queryStringParameters⟩

/-- An operation of one page. -/
def pageEndpoint : Endpoint where
  name := "PagesGet"
  path := "/pages/\x7bid\x7d"
  wildcardPath := "/pages/*"
  method := "get"
  operation := { id := some "read" }
  query := .empty
  baseUrl := "https://api.example.com"

/-- The case of the method is not told, but the name of the parameter is. -/
theorem Endpoint.documents_tell_pageEndpoint :
    pageEndpoint.documents {} = ({ pageEndpoint with method := "GET" } : Endpoint).documents {} ∧
      pageEndpoint.documents {} ≠
        ({ pageEndpoint with path := "/pages/\x7bkey\x7d" } : Endpoint).documents {} ∧
      ∃ destination rule target parameters,
        pageEndpoint.documents {} = [("PagesGet", destination), ("PagesGetRule", rule)] ∧
          rule.target? = some target ∧ target.field? "HttpParameters" = some parameters ∧
          parameters.Filled := by
  obtain ⟨hcalls, hparts⟩ := documents_tell {}
  have hsame : Text.upper "get" = Text.upper "GET" := by decide +kernel
  have hvalues : PathTemplate.parameters "/pages/\x7bid\x7d" ≠
      PathTemplate.parameters "/pages/\x7bkey\x7d" := by decide +kernel
  have hsome : PathTemplate.parameters "/pages/\x7bid\x7d" ≠ [] := by decide +kernel
  refine ⟨?_, fun h => ?_, ?_⟩
  · exact (hcalls pageEndpoint { pageEndpoint with method := "GET" } rfl rfl).mpr
      ⟨hsame, rfl, rfl, rfl, rfl, rfl⟩
  · have hcall := (hcalls pageEndpoint { pageEndpoint with path := "/pages/\x7bkey\x7d" } rfl
      rfl).mp h
    exact hvalues hcall.parameters
  · obtain ⟨destination, rule, target, hdocuments, htarget, hiff, hfilled⟩ := hparts pageEndpoint
    obtain ⟨parameters, hparameters⟩ := Option.isSome_iff_exists.mp (hiff.mpr (.inl hsome))
    exact ⟨destination, rule, target, parameters, hdocuments, htarget, hparameters,
      (hfilled _ hparameters).1⟩

end EventRouting
