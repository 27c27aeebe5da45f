import EventRouting.Proofs.CrossReference
import EventRouting.Proofs.MergeFrame
import EventRouting.Proofs.QueryResolution

/-!
# Names that a template declares

A template inserts the value of a name by `Ref`, or by a name in braces behind a dollar sign under
`Fn::Sub`; it asks for an attribute of a resource by `Fn::GetAtt`. Without a blueprint nothing but
the generated resources is declared, and no attribute is asked of anything else. The event bus and
the credential are inserted all the same: they are parameters that the template does not declare.
-/

namespace EventRouting

/-- The names in braces behind a dollar sign, each up to the next closing brace. What was read of a
name is given from behind. -/
def substitutedFrom : (name : Option (List Char)) → List Char → List String
  | none, '$' :: '\x7b' :: rest => substitutedFrom (some []) rest
  | none, _ :: rest => substitutedFrom none rest
  | some name, c :: rest =>
      if c = '\x7d' then String.ofList name.reverse :: substitutedFrom none rest
      else substitutedFrom (some (c :: name)) rest
  | _, [] => []

/-- The names that a text asks to be replaced by their values. -/
def substitutedNames (text : String) : List String :=
  substitutedFrom none text.toList

theorem substitutedFrom_some {name : List Char} (h : '\x7d' ∉ name) (read rest : List Char) :
    substitutedFrom (some read) (name ++ '\x7d' :: rest) =
      String.ofList (read.reverse ++ name) :: substitutedFrom none rest := by
  induction name generalizing read with
  | nil => simp [substitutedFrom]
  | cons c name ih =>
      rw [List.mem_cons, not_or] at h
      rw [List.cons_append, substitutedFrom, if_neg (Ne.symm h.1), ih h.2]
      simp

/-- The text that stands for the value of a parameter asks for that parameter. -/
theorem substitutedNames_substitution {parameter : String} (h : '\x7d' ∉ parameter.toList) :
    substitutedNames (substitution parameter) = [parameter] := by
  have ht : (substitution parameter).toList =
      '$' :: '\x7b' :: (parameter.toList ++ '\x7d' :: []) := by
    simp [substitution]
  rw [substitutedNames, ht, substitutedFrom, substitutedFrom_some h]
  simp [substitutedFrom]

namespace Value

/-- The names whose values are inserted for an entry. -/
def inserted? (key : Value) : Value → Option (List String)
  | .string text =>
      if key == .string "Ref" then some [text]
      else if key == .string "Fn::Sub" then some (substitutedNames text)
      else none
  | _ => none

/-- The names whose values are inserted in a value that stands at a place. -/
abbrev insertions (place : List String) (v : Value) : List Reference :=
  mentions inserted? place v

/-- Nothing is inserted under any other name than these two. -/
@[simp] theorem inserted?_of_ne {key : String} (hr : key ≠ "Ref") (hs : key ≠ "Fn::Sub")
    (item : Value) : inserted? (.string key) item = none := by
  cases item <;> simp [inserted?, hr, hs]

@[simp] theorem inserted?_ref (text : String) :
    inserted? (.string "Ref") (.string text) = some [text] := by
  simp [inserted?]

@[simp] theorem inserted?_sub (text : String) :
    inserted? (.string "Fn::Sub") (.string text) = some (substitutedNames text) := by
  simp [inserted?]

end Value

open Value Reference

/-- Where a rule names its event bus. -/
def Reference.busPlace : List String := ["Properties", "EventBusName"]

/-- Where a connection names its credential. -/
def Reference.credentialPlace : List String :=
  ["Properties", "AuthParameters", "ApiKeyAuthParameters", "ApiKeyValue"]

/-- Where a rule names its query parameters. -/
def Reference.queryPlace : List String :=
  ["Properties", "Targets", "HttpParameters", "QueryStringParameters"]

theorem Destination.insertions_document (d : Destination) :
    (Resource.destination d).document.insertions [] = [] := by
  simp [Resource.document, Resource.properties?, Destination.document, address]

/-- A connection inserts its credential. -/
theorem Connection.insertions_document (c : Connection) :
    (Resource.connection c).document.insertions [] =
      (substitutedNames (substitution c.credentialParameter)).map (⟨credentialPlace, ·⟩) := by
  simp [Resource.document, Resource.properties?, Connection.document, credentialPlace]

theorem ExecutionRole.insertions_document (r : ExecutionRole) :
    (Resource.role r).document.insertions [] = [] := by
  simp [Resource.document, Resource.properties?, ExecutionRole.document, TrustPolicy.document,
    TrustStatement.document, Value.policyDocument, InlinePolicy.document, Statement.document,
    Attribute.document]

theorem Target.insertions_bodyDocument (place : List String) :
    Target.bodyDocument.insertions place = [] := by
  simp [Target.bodyDocument]

/-- The names that the query of a target asks for. -/
def Target.queryInsertions (t : Target) (place : List String) : List Reference :=
  t.query.entries.flatMap fun e =>
    ((inserted? (.string e.1) (.string e.2)).getD []).map (⟨place, ·⟩)

theorem Target.queryInsertions_of_isEmpty {t : Target} (h : t.query.isEmpty = true)
    (place : List String) : t.queryInsertions place = [] := by
  have he : t.query.entries = [] := by simpa [OrderedMap.isEmpty] using h
  simp [queryInsertions, he]

theorem Target.insertions_parameterFields (t : Target) (place : List String) :
    (record t.parameterFields).insertions place =
      t.queryInsertions (place ++ ["QueryStringParameters"]) := by
  unfold Target.parameterFields
  by_cases hv : t.pathValues.isEmpty
  · by_cases hq : t.query.isEmpty
    · simp [hv, hq, queryInsertions_of_isEmpty]
    · simp [hv, hq, mentions_record_strings, queryInsertions]
  · by_cases hq : t.query.isEmpty
    · simp [hv, hq, queryInsertions_of_isEmpty]
    · simp [hv, hq, mentions_record_strings, queryInsertions]

theorem Target.queryInsertions_of_parameterFields {t : Target} (h : t.parameterFields = [])
    (place : List String) : t.queryInsertions place = [] := by
  apply queryInsertions_of_isEmpty
  by_contra hq
  simp [parameterFields, hq] at h

/-- Of a target only the names of its query can ask for anything. -/
theorem Target.insertions_document (t : Target) (place : List String) :
    t.document.insertions place =
      t.queryInsertions (place ++ ["HttpParameters", "QueryStringParameters"]) := by
  unfold Target.document
  by_cases hb : t.forwardsBody
  · by_cases hp : t.parameterFields = []
    · simp [hb, hp, address, Target.insertions_bodyDocument,
        Target.queryInsertions_of_parameterFields hp]
    · simp [hb, hp, address, Target.insertions_bodyDocument, Target.insertions_parameterFields]
  · by_cases hp : t.parameterFields = []
    · simp [hb, hp, address, Target.queryInsertions_of_parameterFields hp]
    · simp [hb, hp, address, Target.insertions_parameterFields]

/-- A rule inserts its event bus, and what its query asks for. -/
theorem Rule.insertions_document (r : Rule) :
    (Resource.rule r).document.insertions [] =
      ⟨busPlace, r.eventBus⟩ :: r.target.queryInsertions queryPlace := by
  simp [Resource.document, Resource.properties?, Rule.document, Target.insertions_document,
    busPlace, queryPlace]

namespace Specification

variable {s : Specification} {o : Options} {baseUrl : String}

/-- The query of an operation asks for a name only if one of its parameters is called `Ref`. -/
theorem mem_queryInsertions {a : AcceptedOperation} {place : List String} {ref : Reference}
    (h : ref ∈ ((a.endpoint s.reusableQuery o baseUrl).target o.policy).queryInsertions place) :
    ref = ⟨place, detailExpression "Ref"⟩ := by
  obtain ⟨⟨name, text⟩, he, hr⟩ := List.mem_flatMap.mp h
  have hget := OrderedMap.get?_eq_some_iff_mem.mpr he
  have hq : ((a.endpoint s.reusableQuery o baseUrl).target o.policy).query =
      operationQuery s.reusableQuery a.item a.operation := rfl
  rw [hq, get?_operationQuery, Option.ite_none_right_eq_some] at hget
  obtain rfl : detailExpression name = text := Option.some.inj hget.2
  by_cases href : name = "Ref"
  · subst href
    simpa using hr
  · by_cases hsub : name = "Fn::Sub"
    · subst hsub
      have hnone : substitutedNames (detailExpression "Fn::Sub") = [] := by decide
      simp [hnone] at hr
    · simp [href, hsub] at hr

/-- A name whose value is inserted in a generated resource is that of the event bus, that of the
credential, or what a query parameter called `Ref` makes of it. -/
theorem Generates.insertion {r : Resource} (hr : s.Generates o baseUrl r) {ref : Reference}
    (h : ref ∈ r.document.insertions []) :
    ref = ⟨busPlace, o.policy.eventBusParameter⟩ ∨
      (ref.place = credentialPlace ∧
        ref.name ∈ substitutedNames (substitution o.policy.credentialParameter)) ∨
      ref = ⟨queryPlace, detailExpression "Ref"⟩ := by
  cases hr with
  | role => simp [ExecutionRole.insertions_document] at h
  | queue => simp [Resource.document, Resource.properties?] at h
  | connection =>
      rw [Connection.insertions_document, List.mem_map] at h
      obtain ⟨name, hname, rfl⟩ := h
      exact .inr (.inl ⟨rfl, hname⟩)
  | destination ha => simp [Destination.insertions_document] at h
  | rule ha =>
      rw [Rule.insertions_document, List.mem_cons] at h
      rcases h with rfl | h
      · exact .inl rfl
      · exact .inr (.inr (mem_queryInsertions h))

end Specification

namespace Compilation

/-- The template declares a name: as one of its resources, or as one of its parameters. -/
def Declares (c : Compilation) (name : String) : Prop :=
  (c.resource? name).isSome = true ∨
    ((c.template.field? "Parameters").bind (·.field? name)).isSome = true

/-- Whatever a generated resource mentions is declared. -/
def SelfContained (c : Compilation) (p : Policy) : Prop :=
  ∀ name ∈ Entries.keys (c.usedNames p), ∀ v, c.resource? name = some v →
    ∀ ref ∈ v.references [] ++ v.insertions [], c.Declares ref.name

end Compilation

namespace Specification

variable {s : Specification} {o : Options} {c : Compilation}

/-- Without a blueprint a template has the sections of the standard one. -/
theorem sections_of_compile (hb : o.blueprint = none) (h : s.compile o = .ok c) :
    ∃ sections, c.template = .mapping sections ∧
      Entries.keys sections = [.string "AWSTemplateFormatVersion", .string "Description",
        .string "Resources"] := by
  obtain ⟨baseUrl, merged, -, -, hm, rfl⟩ := compile_eq_ok_iff.mp h
  rw [hb, Option.getD_none, Blueprint.standard, Value.record] at hm
  refine ⟨_, Blueprint.template_of_merge hm, ?_⟩
  simp [Mapping.overlay, Entries.insert, Blueprint.resourcesKey]

/-- Without a blueprint nothing is declared but the generated resources. -/
theorem declares_iff (hb : o.blueprint = none) (h : s.compile o = .ok c) {name : String} :
    c.Declares name ↔ name ∈ Entries.keys (c.usedNames o.policy) := by
  have hc := compiled_of_compile h
  obtain ⟨sections, ht, hk⟩ := sections_of_compile hb h
  have hp : c.template.field? "Parameters" = none := by
    rw [ht, Value.field?, Value.entries?, Option.bind_some, Entries.get?_eq_none_iff, hk]
    simp [Value.beq_eq_same, Value.same]
  have hnone : Entries.get? (.string name) o.blueprintResources = none := by
    simp [Options.blueprintResources, hb]
  rw [Compilation.Declares, hp, hc.resource?_eq, hnone, hc.keys_usedNames,
    ← @mem_names_inventory s o c.baseUrl, OrderedMap.mem_names_iff, OrderedMap.contains]
  simp

/-- Without a blueprint a template has no parameters, and declares exactly its generated resources.
Whatever attribute a generated resource asks for is that of a declared one. The values that it has
inserted are those of the event bus and of the credential, apart from a query parameter called
`Ref`, whose entry reads like a mention of its expression. -/
theorem resources_declared (hb : o.blueprint = none) (h : s.compile o = .ok c) :
    (∃ sections, c.template = .mapping sections ∧
      Entries.keys sections = [.string "AWSTemplateFormatVersion", .string "Description",
        .string "Resources"]) ∧
    (∀ name, c.Declares name ↔ name ∈ Entries.keys (c.usedNames o.policy)) ∧
    ∀ name ∈ Entries.keys (c.usedNames o.policy), ∃ v, c.resource? name = some v ∧
      (∀ ref ∈ v.references [], c.Declares ref.name) ∧
      ∀ ref ∈ v.insertions [],
        ref = ⟨busPlace, o.policy.eventBusParameter⟩ ∨
          (ref.place = credentialPlace ∧
            ref.name ∈ substitutedNames (substitution o.policy.credentialParameter) ∧
            ('\x7d' ∉ o.policy.credentialParameter.toList →
              ref.name = o.policy.credentialParameter)) ∨
          ref = ⟨queryPlace, detailExpression "Ref"⟩ := by
  have hc := compiled_of_compile h
  refine ⟨sections_of_compile hb h, fun name => declares_iff hb h, fun name hname => ?_⟩
  obtain ⟨r, hr, hv⟩ := hc.exists_of_mem_usedNames hname
  refine ⟨r.document, hv, fun ref href => ?_, fun ref href => ?_⟩
  · obtain ⟨w, hw, -⟩ := written_of_inventory hc.nodup hr href
    rw [declares_iff hb h, hc.keys_usedNames]
    exact Entries.mem_keys_of_mem hw
  · obtain rfl | ⟨hp, hn⟩ | rfl := (generates_of_inventory hc.nodup hr).insertion href
    · exact .inl rfl
    · refine .inr (.inl ⟨hp, hn, fun hbrace => ?_⟩)
      rwa [substitutedNames_substitution hbrace, List.mem_singleton] at hn
    · exact .inr (.inr rfl)

/-- Options that name a credential, under which the operation of a topic is generated without a
blueprint. -/
def bareOptions : Options where
  methods := .parse "post"
  policy := { credentialParameter := "Token" }

theorem keys_usedNames_bareOptions (h : cacheApi.compile bareOptions = .ok c) :
    Entries.keys (c.usedNames bareOptions.policy) =
      ["ApiDestinationsTargetRole", "FailedDeliveryDLQ", "ApiConnection", "TopicsPost",
        "TopicsPostRule"] := by
  have hc := compiled_of_compile h
  rw [hc.keys_usedNames, keys_resources hc.nodup]
  decide +kernel

/-- The rule of a topic asks for attributes of declared resources only. The connection is declared,
and neither the event bus nor the credential is. -/
theorem resources_declared_cacheApi :
    bareOptions.blueprint = none ∧ ∃ c rule, cacheApi.compile bareOptions = .ok c ∧
      c.resource? "TopicsPostRule" = some rule ∧
      (∀ ref ∈ rule.references [], c.Declares ref.name) ∧
      c.Declares "ApiConnection" ∧ ¬ c.Declares "EventBusName" ∧ ¬ c.Declares "Token" := by
  obtain ⟨c, h⟩ := exists_ok_of_isOk
    (by decide +kernel : (cacheApi.compile bareOptions).isOk = true)
  obtain ⟨-, hdeclares, hresources⟩ := resources_declared rfl h
  rw [keys_usedNames_bareOptions h] at hdeclares hresources
  obtain ⟨rule, hrule, hreferences, -⟩ := hresources "TopicsPostRule" (by simp)
  refine ⟨rfl, c, rule, h, hrule, hreferences, ?_⟩
  simp [hdeclares]

/-- A template without a blueprint inserts the event bus, which it does not declare. -/
theorem not_selfContained_cacheApi :
    bareOptions.blueprint = none ∧ ∃ c, cacheApi.compile bareOptions = .ok c ∧
      ¬ c.SelfContained bareOptions.policy := by
  obtain ⟨c, h⟩ := exists_ok_of_isOk
    (by decide +kernel : (cacheApi.compile bareOptions).isOk = true)
  have hc := compiled_of_compile h
  have hkeys := keys_usedNames_bareOptions h
  have hk : (Entries.keys (cacheApi.resources bareOptions c.baseUrl)).Nodup := by
    rw [← hc.keys_usedNames, hkeys]
    decide
  have hgenerated : (cacheApi.generated bareOptions.methods).isEmpty = false := by decide +kernel
  obtain ⟨a, ha⟩ := List.exists_mem_of_ne_nil _ (List.isEmpty_eq_false_iff.mp hgenerated)
  have hname : a.ruleName bareOptions ∈ Entries.keys (c.usedNames bareOptions.policy) := by
    rw [hc.keys_usedNames]
    exact Entries.mem_keys_of_mem (mem_resources_rule hc.nodup ha)
  refine ⟨rfl, c, h, fun hself => ?_⟩
  have hbus := hself _ hname _ (hc.resources_of_generated hk ha).2 ⟨busPlace, "EventBusName"⟩ (by
    rw [List.mem_append, Rule.insertions_document]
    exact .inr List.mem_cons_self)
  rw [declares_iff rfl h, hkeys] at hbus
  simp at hbus

end Specification

end EventRouting
