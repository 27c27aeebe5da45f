import EventRouting.Proofs.Outcome

/-!
# Refusals

A compilation is refused for the first of three reasons: the policy has a fault, no server can be
called, or the blueprint is no template. Each of them is a condition on the options and the servers,
so nothing else that a description holds can make a compilation fail.
-/

namespace EventRouting

namespace Policy

/-- The policies that no template is made by. -/
def Invalid (p : Policy) : Prop :=
  p.rateLimit = 0 ∨
    (p.roleName = "" ∨ p.queueName = "" ∨ p.connectionName = "" ∨ p.apiKeyName = "" ∨
      p.credentialParameter = "" ∨ p.eventBusParameter = "" ∨ p.ruleSuffix = "") ∨
    (p.roleName = p.queueName ∨ p.roleName = p.connectionName ∨ p.queueName = p.connectionName)

/-- What is reported of a policy: that its rate is zero, or else its first empty field, or else the
first of the shared names that stands behind itself. -/
inductive Fault (p : Policy) : PolicyError → Prop
  | rate (zero : p.rateLimit = 0) : Fault p .rateTooLow
  | empty {before after : List (String × String)} {field : String} (rate : p.rateLimit ≠ 0)
      (split : p.requiredFields = before ++ (field, "") :: after)
      (first : ∀ f ∈ before, f.2 ≠ "") : Fault p (.emptyField field)
  | repeated {before after : List String} {name : String} (rate : p.rateLimit ≠ 0)
      (fields : ∀ f ∈ p.requiredFields, f.2 ≠ "")
      (split : p.sharedNames = before ++ name :: after) (again : name ∈ before)
      (first : before.Nodup) : Fault p (.repeatedName name)

/-- The name that is found is the first one that was seen, or that stands in the list, before. -/
theorem firstRepeated?_eq_some_iff {seen names : List String} {name : String} :
    firstRepeated? seen names = some name ↔
      ∃ before after, names = before ++ name :: after ∧ (name ∈ seen ∨ name ∈ before) ∧
        before.Nodup ∧ ∀ n ∈ before, n ∉ seen := by
  induction names generalizing seen with
  | nil => simp [firstRepeated?]
  | cons x rest ih =>
      by_cases hx : x ∈ seen
      · simp only [firstRepeated?, List.contains_iff_mem, hx, ↓reduceIte, Option.some.injEq]
        constructor
        · rintro rfl
          exact ⟨[], rest, rfl, .inl hx, List.nodup_nil, by simp⟩
        · rintro ⟨before, after, he, -, -, hs⟩
          cases before with
          | nil => exact (List.cons.inj he).1
          | cons b before => exact absurd hx ((List.cons.inj he).1 ▸ hs b (by simp))
      · simp only [firstRepeated?, List.contains_iff_mem, hx, ↓reduceIte, ih]
        constructor
        · rintro ⟨before, after, rfl, hm, hn, hs⟩
          refine ⟨x :: before, after, rfl, ?_, List.nodup_cons.mpr ⟨fun h => ?_, hn⟩, ?_⟩
          · rw [List.mem_cons] at hm ⊢
            tauto
          · exact hs x h List.mem_cons_self
          · rintro n (_ | ⟨_, h⟩)
            · exact hx
            · exact fun hm => hs n h (List.mem_cons_of_mem _ hm)
        · rintro ⟨before, after, he, hm, hn, hs⟩
          cases before with
          | nil =>
              obtain rfl := (List.cons.inj he).1
              simp [hx] at hm
          | cons b before =>
              obtain ⟨rfl, rfl⟩ := List.cons.inj he
              rw [List.nodup_cons] at hn
              refine ⟨before, after, rfl, ?_, hn.2, fun n h => ?_⟩
              · rw [List.mem_cons] at hm ⊢
                tauto
              · rw [List.mem_cons, not_or]
                exact ⟨fun e => hn.1 (e ▸ h), hs n (List.mem_cons_of_mem _ h)⟩

/-- Not every field has a value exactly if one of them is the first without. -/
theorem find?_requiredFields {p : Policy} {field value : String} :
    (p.requiredFields.find? fun f => f.2 == "") = some (field, value) ↔
      value = "" ∧ ∃ before after, p.requiredFields = before ++ (field, "") :: after ∧
        ∀ f ∈ before, f.2 ≠ "" := by
  rw [List.find?_eq_some_iff_append, beq_iff_eq]
  constructor
  · rintro ⟨rfl, before, after, hs, hb⟩
    exact ⟨rfl, before, after, hs, fun f hf => by simpa using hb f hf⟩
  · rintro ⟨rfl, before, after, hs, hb⟩
    exact ⟨rfl, before, after, hs, fun f hf => by simpa using hb f hf⟩

theorem error?_eq_some_iff {p : Policy} {e : PolicyError} : p.error? = some e ↔ p.Fault e := by
  rw [error?]
  by_cases hr : p.rateLimit = 0
  · rw [if_pos hr]
    constructor
    · rintro ⟨⟩
      exact .rate hr
    · rintro (_ | rate | rate)
      · rfl
      · exact absurd hr rate
      · exact absurd hr rate
  · rw [if_neg hr]
    cases hf : p.requiredFields.find? fun f => f.2 == "" with
    | some f =>
        obtain ⟨field, value⟩ := f
        obtain ⟨-, before, after, hs, hb⟩ := find?_requiredFields.mp hf
        constructor
        · rintro ⟨⟩
          exact .empty hr hs hb
        · rintro (rate | ⟨-, hs', hb'⟩ | ⟨-, fields, -⟩)
          · exact absurd rate hr
          · have hf' := find?_requiredFields.mpr ⟨rfl, _, _, hs', hb'⟩
            rw [hf] at hf'
            obtain ⟨rfl, -⟩ := Prod.mk.inj (Option.some.inj hf')
            rfl
          · exact absurd rfl (fields (field, "") (by simp [hs]))
    | none =>
        have hfields : ∀ f ∈ p.requiredFields, f.2 ≠ "" := fun f hm => by
          simpa using List.find?_eq_none.mp hf f hm
        simp only [Option.map_eq_some_iff, firstRepeated?_eq_some_iff]
        constructor
        · rintro ⟨name, ⟨before, after, hs, hm, hn, -⟩, rfl⟩
          exact .repeated hr hfields hs (hm.resolve_left List.not_mem_nil) hn
        · rintro (rate | ⟨-, hs', hb'⟩ | ⟨-, -, hs', again, first⟩)
          · exact absurd rate hr
          · rw [find?_requiredFields.mpr ⟨rfl, _, _, hs', hb'⟩] at hf
            cases hf
          · exact ⟨_, ⟨_, _, hs', .inr again, first, by simp⟩, rfl⟩

theorem validate_eq_error_iff {p : Policy} {e : PolicyError} :
    p.validate = .error e ↔ p.Fault e := by
  rw [← error?_eq_some_iff, validate]
  cases p.error? <;> simp

/-- A policy is accepted exactly if it has a rate, all fields and three different shared names. -/
theorem validate_eq_ok_iff {p : Policy} : p.validate = .ok () ↔ ¬ p.Invalid := by
  have he : p.validate = .ok () ↔ p.error? = none := by
    rw [validate]
    cases p.error? <;> simp
  rw [he, error?, Invalid]
  by_cases hr : p.rateLimit = 0
  · simp [hr]
  · rw [if_neg hr]
    have hf : (p.requiredFields.find? fun f => f.2 == "") = none ↔
        ¬ (p.roleName = "" ∨ p.queueName = "" ∨ p.connectionName = "" ∨ p.apiKeyName = "" ∨
          p.credentialParameter = "" ∨ p.eventBusParameter = "" ∨ p.ruleSuffix = "") := by
      simp [requiredFields]
    have hn : p.sharedNames.Nodup ↔
        ¬ (p.roleName = p.queueName ∨ p.roleName = p.connectionName ∨
          p.queueName = p.connectionName) := by
      simp [sharedNames]
      tauto
    rw [not_or, not_or, ← hf, ← hn]
    cases p.requiredFields.find? fun f => f.2 == "" with
    | some f => simp
    | none => simp [hr, firstRepeated?_eq_none_iff]

/-- An invalid policy is one of which something is reported. -/
theorem invalid_iff {p : Policy} : p.Invalid ↔ ∃ e, p.Fault e := by
  simp only [← validate_eq_error_iff]
  rw [← not_iff_not, ← validate_eq_ok_iff]
  cases p.validate with
  | error e => simp
  | ok _ => simp

end Policy

namespace Server

/-- The description of a server names an environment, in letters of either case. -/
def Names (s : Server) (environment : String) : Prop :=
  ∃ d, s.description = some d ∧ Text.lower d = Text.lower environment

/-- A server has a URL that is not empty. -/
def Callable (s : Server) : Prop :=
  ∃ url, s.url = some url ∧ url ≠ ""

theorem usableUrl?_eq_none_iff {s : Server} : s.usableUrl? = none ↔ ¬ s.Callable := by
  rw [usableUrl?, Callable]
  cases s.url with
  | none => simp
  | some url => by_cases h : url = "" <;> simp [Option.filter, h]

end Server

namespace BaseUrl

/-- Servers of which none can be called, and what is reported then. With an environment only the
first server that it names counts, without one they all do. -/
inductive Missing (servers : List Server) : Option String → ServerError → Prop
  | unknown {environment : String} (given : environment ≠ "")
      (others : ∀ x ∈ servers, ¬ x.Names environment) :
      Missing servers (some environment) (.environmentNotFound environment)
  | uncallable {environment : String} {before after : List Server} {server : Server}
      (given : environment ≠ "") (split : servers = before ++ server :: after)
      (named : server.Names environment) (first : ∀ x ∈ before, ¬ x.Names environment)
      (url : ¬ server.Callable) :
      Missing servers (some environment) (.environmentNotFound environment)
  | servers {environment : Option String} (absent : environment = none ∨ environment = some "")
      (url : ∀ x ∈ servers, ¬ x.Callable) : Missing servers environment .noServers

theorem any_description_iff {server : Server} {environment : String} :
    (server.description.any fun d => Text.lower d == Text.lower environment) = true ↔
      server.Names environment := by
  simp [Server.Names, Option.any_eq_true]

theorem find?_eq_none_iff {servers : List Server} {environment : String} :
    find? servers environment = none ↔ ∀ x ∈ servers, ¬ x.Names environment := by
  simp only [find?, List.find?_eq_none, any_description_iff]

/-- The server of an environment is the first one that names it. -/
theorem find?_eq_some_iff {servers : List Server} {environment : String} {server : Server} :
    find? servers environment = some server ↔
      server.Names environment ∧ ∃ before after, servers = before ++ server :: after ∧
        ∀ x ∈ before, ¬ x.Names environment := by
  simp only [find?, List.find?_eq_some_iff_append, Bool.not_eq_true', ← Bool.not_eq_true,
    any_description_iff]

/-- With an environment nothing is selected exactly if its first server is missing or cannot be
called. -/
theorem bind_usableUrl?_eq_none_iff {servers : List Server} {environment : String} :
    (find? servers environment).bind Server.usableUrl? = none ↔
      (∀ x ∈ servers, ¬ x.Names environment) ∨
        ∃ before server after, servers = before ++ server :: after ∧
          server.Names environment ∧ (∀ x ∈ before, ¬ x.Names environment) ∧
          ¬ server.Callable := by
  rw [Option.bind_eq_none_iff, ← find?_eq_none_iff]
  constructor
  · intro h
    cases hf : find? servers environment with
    | none => exact .inl rfl
    | some server =>
        obtain ⟨named, before, after, split, first⟩ := find?_eq_some_iff.mp hf
        exact .inr ⟨before, server, after, split, named, first,
          Server.usableUrl?_eq_none_iff.mp (h server hf)⟩
  · rintro (hn | ⟨before, server, after, split, named, first, url⟩) x hx
    · rw [hn] at hx
      cases hx
    · rw [find?_eq_some_iff.mpr ⟨named, before, after, split, first⟩] at hx
      obtain rfl := Option.some.inj hx
      exact Server.usableUrl?_eq_none_iff.mpr url

theorem select_environment {servers : List Server} {name : String} (given : name ≠ "")
    {e : ServerError} :
    select servers (some name) = .error e ↔ Missing servers (some name) e := by
  have hselect : select servers (some name) = .error e ↔
      (find? servers name).bind Server.usableUrl? = none ∧ .environmentNotFound name = e := by
    simp only [select, Option.filter_some, bne_iff_ne, ne_eq, given, not_false_eq_true, ↓reduceIte]
    cases (find? servers name).bind Server.usableUrl? <;> simp
  rw [hselect, bind_usableUrl?_eq_none_iff]
  constructor
  · rintro ⟨others | ⟨_, _, _, split, named, first, url⟩, rfl⟩
    · exact .unknown given others
    · exact .uncallable given split named first url
  · rintro (⟨-, others⟩ | ⟨-, split, named, first, url⟩ | ⟨absent, -⟩)
    · exact ⟨.inl others, rfl⟩
    · exact ⟨.inr ⟨_, _, _, split, named, first, url⟩, rfl⟩
    · simp [given] at absent

theorem select_absent {servers : List Server} {environment : Option String}
    (absent : environment = none ∨ environment = some "") {e : ServerError} :
    select servers environment = .error e ↔ Missing servers environment e := by
  have hselect : select servers environment = .error e ↔
      (∀ x ∈ servers, ¬ x.Callable) ∧ .noServers = e := by
    have hfilter : environment.filter (· != "") = none := by
      rcases absent with rfl | rfl <;> simp
    simp only [select, hfilter, ← Server.usableUrl?_eq_none_iff, ← List.findSome?_eq_none_iff]
    cases servers.findSome? Server.usableUrl? <;> simp
  rw [hselect]
  constructor
  · rintro ⟨url, rfl⟩
    exact .servers absent url
  · rintro (⟨given, -⟩ | ⟨given, -⟩ | ⟨-, url⟩)
    · simp [given] at absent
    · simp [given] at absent
    · exact ⟨url, rfl⟩

theorem resolve_eq_error_iff {servers : List Server} {environment : Option String}
    {e : ServerError} :
    resolve servers environment = .error e ↔ Missing servers environment e := by
  have hselect :
      resolve servers environment = .error e ↔ select servers environment = .error e := by
    rw [resolve]
    cases select servers environment <;> simp [Except.map]
  rw [hselect]
  by_cases absent : environment = none ∨ environment = some ""
  · exact select_absent absent
  · obtain ⟨name, rfl⟩ := Option.ne_none_iff_exists'.mp fun h => absent (.inl h)
    exact select_environment fun h => absent (.inr (h ▸ rfl))

/-- A base URL is found unless a server is missing. -/
theorem exists_resolve_iff {servers : List Server} {environment : Option String} :
    (∃ url, resolve servers environment = .ok url) ↔ ∀ e, ¬ Missing servers environment e := by
  simp only [← resolve_eq_error_iff]
  exact exists_ok_iff

end BaseUrl

namespace Blueprint

/-- Values that are no template, and what is reported then: the root has to be a mapping or nothing,
and so has the section of the resources, if it is there. -/
inductive NoTemplate : Value → BlueprintError → Prop
  | root {v : Value} (null : v ≠ .null) (mapping : ∀ m, v ≠ .mapping m) :
      NoTemplate v (.root v.kind)
  | resources {sections : Mapping} {v : Value}
      (present : Entries.get? (.string "Resources") sections = some v) (null : v.isNull = false)
      (mapping : ∀ m, v ≠ .mapping m) : NoTemplate (.mapping sections) (.resources v.kind)

theorem sections_eq_error_iff {template : Value} {e : BlueprintError} :
    sections template = .error e ↔
      template ≠ .null ∧ (∀ m, template ≠ .mapping m) ∧ .root template.kind = e := by
  cases template <;> simp [sections]

theorem resources_eq_error_iff {sections : Mapping} {e : BlueprintError} :
    resources sections = .error e ↔
      ∃ v, Entries.get? (.string "Resources") sections = some v ∧ v.isNull = false ∧
        (∀ m, v ≠ .mapping m) ∧ .resources v.kind = e := by
  rw [resources, resourcesKey]
  cases hv : Entries.get? (.string "Resources") sections with
  | none => simp
  | some v =>
      cases v with
      | mapping entries => simp
      | tagged tag v => cases hn : v.isNull <;> simp [Value.isNull, hn]
      | _ => simp [Value.isNull]

/-- Whether a merge fails depends on the template alone. -/
theorem merge_eq_error_iff {template : Value} {generated : Mapping} {e : BlueprintError} :
    merge template generated = .error e ↔ NoTemplate template e := by
  have hmerge : merge template generated = .error e ↔ sections template = .error e ∨
      ∃ sections', sections template = .ok sections' ∧ resources sections' = .error e := by
    unfold merge
    simp only [bind_eq_error, pure, Except.pure, reduceCtorEq, and_false, exists_false, or_false]
  simp only [hmerge, sections_eq_error_iff, resources_eq_error_iff]
  constructor
  · rintro (⟨null, mapping, rfl⟩ | ⟨sections', hs, v, present, null, mapping, rfl⟩)
    · exact .root null mapping
    · cases template with
      | mapping entries =>
          obtain rfl := Except.ok.inj hs
          exact .resources present null mapping
      | null =>
          obtain rfl := Except.ok.inj hs
          cases present
      | _ => cases hs
  · rintro (⟨null, mapping⟩ | ⟨present, null, mapping⟩)
    · exact .inl ⟨null, mapping, rfl⟩
    · exact .inr ⟨_, rfl, _, present, null, mapping, rfl⟩

/-- The template that is used if the caller has none can be merged into. -/
theorem not_noTemplate_standard (p : Policy) (e : BlueprintError) :
    ¬ NoTemplate (standard p) e := by
  intro h
  rw [← @merge_eq_error_iff _ []] at h
  simp [merge, standard, Value.record, sections, resources, resourcesKey, Entries.get?, bind,
    Except.bind, pure, Except.pure] at h

end Blueprint

/-- Descriptions and options from which no template can be made, and the error for them: that of the
policy comes first, then that of the servers, and that of the blueprint comes last. -/
inductive Refused (servers : List Server) (o : Options) : CompilationError → Prop
  | policy {e : PolicyError} (fault : o.policy.Fault e) : Refused servers o (.policy e)
  | server {e : ServerError} (valid : ¬ o.policy.Invalid)
      (missing : BaseUrl.Missing servers o.environment e) : Refused servers o (.server e)
  | blueprint {b : Value} {e : BlueprintError} (valid : ¬ o.policy.Invalid)
      (found : ∀ e, ¬ BaseUrl.Missing servers o.environment e) (given : o.blueprint = some b)
      (noTemplate : Blueprint.NoTemplate b e) : Refused servers o (.blueprint e)

namespace Specification

variable {s : Specification} {o : Options}

theorem merge_blueprint_eq_error_iff {generated : Mapping} {e : BlueprintError} :
    Blueprint.merge (o.blueprint.getD (Blueprint.standard o.policy)) generated = .error e ↔
      ∃ b, o.blueprint = some b ∧ Blueprint.NoTemplate b e := by
  rw [Blueprint.merge_eq_error_iff]
  cases o.blueprint with
  | none => simpa using Blueprint.not_noTemplate_standard o.policy e
  | some b => simp

/-- A compilation fails for the first of the reasons, and for no other. -/
theorem compile_eq_error_iff {e : CompilationError} :
    s.compile o = .error e ↔ Refused s.servers o e := by
  unfold compile
  simp only [bind_eq_error, mapError_eq_error, mapError_eq_ok, Policy.validate_eq_error_iff,
    BaseUrl.resolve_eq_error_iff, merge_blueprint_eq_error_iff]
  constructor
  · rintro (⟨d, fault, rfl⟩ | ⟨_, hv, ⟨d, missing, rfl⟩ | ⟨url, hu, hrest⟩⟩)
    · exact .policy fault
    · exact .server (Policy.validate_eq_ok_iff.mp hv) missing
    · rcases hrest with ⟨d, ⟨b, given, noTemplate⟩, rfl⟩ | ⟨_, _, hend⟩
      · refine .blueprint (Policy.validate_eq_ok_iff.mp hv) (fun d missing => ?_) given noTemplate
        rw [← BaseUrl.resolve_eq_error_iff, hu] at missing
        cases missing
      · cases hend
  · rintro (fault | ⟨valid, missing⟩ | ⟨valid, found, given, noTemplate⟩)
    · exact .inl ⟨_, fault, rfl⟩
    · exact .inr ⟨(), Policy.validate_eq_ok_iff.mpr valid, .inl ⟨_, missing, rfl⟩⟩
    · obtain ⟨url, hu⟩ := BaseUrl.exists_resolve_iff.mpr found
      exact .inr ⟨(), Policy.validate_eq_ok_iff.mpr valid,
        .inr ⟨url, hu, .inl ⟨_, ⟨_, given, noTemplate⟩, rfl⟩⟩⟩

/-- A compilation fails exactly if the policy is invalid, no server can be called, or the blueprint
is no template, with the error for the first of these that is so. What a description holds beside
its servers makes no difference. -/
theorem refused_exactly (s : Specification) (o : Options) :
    (∀ e, s.compile o = .error e ↔ Refused s.servers o e) ∧
      (o.policy.Invalid ↔ ∃ e, o.policy.Fault e) ∧
      ((∃ c, s.compile o = .ok c) ↔ ∀ e, ¬ Refused s.servers o e) ∧
      ∀ info paths parameters e,
        s.compile o = .error e ↔
          ({ info, servers := s.servers, paths, parameters } : Specification).compile o =
            .error e := by
  refine ⟨fun e => compile_eq_error_iff, Policy.invalid_iff, ?_, fun info paths parameters e => ?_⟩
  · simp only [← compile_eq_error_iff]
    exact exists_ok_iff
  · rw [compile_eq_error_iff, compile_eq_error_iff]

/-- The cache, with two servers of one environment, of which the first has no URL. -/
def stagedApi : Specification :=
  { cacheApi with
    servers := [{ url := some "", description := some "Staging" },
      { url := some "https://staging.example.com", description := some "STAGING" }] }

/-- Options with a blueprint that is no template. -/
def listOptions : Options :=
  { cacheOptions with blueprint := some (.sequence []) }

/-- For an environment only its first server counts, and its error comes before that of the
blueprint, which is the one that remains without an environment. -/
theorem refused_exactly_stagedApi :
    stagedApi.compile { listOptions with environment := some "staging" } =
        .error (.server (.environmentNotFound "staging")) ∧
      stagedApi.compile listOptions = .error (.blueprint (.root "a sequence")) := by
  have valid : ¬ listOptions.policy.Invalid := Policy.validate_eq_ok_iff.mp (by decide +kernel)
  have first : ¬ Server.Callable { url := some "", description := some "Staging" } :=
    Server.usableUrl?_eq_none_iff.mp (by decide +kernel)
  have found : ∀ e, ¬ BaseUrl.Missing stagedApi.servers listOptions.environment e :=
    BaseUrl.exists_resolve_iff.mp ⟨"https://staging.example.com", by decide +kernel⟩
  have named : Text.lower "Staging" = Text.lower "staging" := by decide +kernel
  constructor
  · exact ((refused_exactly _ _).1 _).mpr (.server valid
      (.uncallable (by decide) (List.nil_append _).symm ⟨_, rfl, named⟩ (by simp) first))
  · exact ((refused_exactly _ _).1 _).mpr (.blueprint valid found rfl (.root nofun nofun))

end Specification

end EventRouting
