import EventRouting.Api.Reader
import EventRouting.Proofs.CrossReference
import EventRouting.Proofs.ServerSelection

/-!
# The URLs that are called

A destination calls the base URL of its run, followed by the path of its operation with wildcards.
A server is selected only if it has a URL, but a slash at the end of the URL is taken off. So there
is one URL of which nothing is left: the slash alone. With any other URL, no destination is without
a host.
-/

namespace EventRouting

namespace BaseUrl

/-- The server that is selected among others has the URL. -/
def SelectsUrl (servers : List Server) (environment : Option String) (url : String) : Prop :=
  ∃ before server after, servers = before ++ server :: after ∧
    Selected before server environment ∧ server.url = some url

section SelectsUrl

variable {servers : List Server} {environment : Option String} {url baseUrl : String}

theorem select_eq_ok_iff_selectsUrl (hurl : url ≠ "") :
    select servers environment = .ok url ↔ SelectsUrl servers environment url := by
  rw [select_eq_ok_iff]
  constructor
  · rintro ⟨before, server, after, split, hs, hu, -⟩
    exact ⟨before, server, after, split, hs, hu⟩
  · rintro ⟨before, server, after, split, hs, hu⟩
    exact ⟨before, server, after, split, hs, hu, hurl⟩

/-- Of a URL nothing is left exactly if it was nothing but a slash. -/
theorem Trimmed.eq_empty_iff (h : Trimmed url baseUrl) (hurl : url ≠ "") :
    baseUrl = "" ↔ url = "/" := by
  constructor
  · rintro rfl
    by_cases hs : url.toList.getLast? = some '/'
    · exact h.slash hs
    · exact absurd (h.other hs) hurl
  · rintro rfl
    exact (trimmed_iff.mp h).symm.trans (withoutSlash_append "")

/-- A base URL is empty exactly if the URL of the selected server is a slash. -/
theorem eq_empty_iff_of_resolve (h : resolve servers environment = .ok baseUrl) :
    baseUrl = "" ↔ SelectsUrl servers environment "/" := by
  obtain ⟨url, hselect, htrimmed⟩ := resolve_eq_ok_iff.mp h
  have hurl : url ≠ "" := by
    obtain ⟨_, _, _, -, -, -, hne⟩ := select_eq_ok_iff.mp hselect
    exact hne
  rw [htrimmed.eq_empty_iff hurl, ← select_eq_ok_iff_selectsUrl (by decide), hselect,
    Except.ok.injEq]

end SelectsUrl

end BaseUrl

namespace Value

/-- What a resource of a template names as the URL that it calls. -/
def invocationEndpoint? (resource : Value) : Option Value := do
  (← resource.field? "Properties").field? "InvocationEndpoint"

end Value

namespace Resource

/-- The URL that a resource calls, if it is a destination. -/
def endpoint? : Resource → Option String
  | .destination d => some d.endpoint
  | _ => none

theorem endpoint?_eq_some_iff {r : Resource} {url : String} :
    r.endpoint? = some url ↔ ∃ d, r = .destination d ∧ d.endpoint = url := by
  cases r <;> simp [endpoint?]

/-- Destinations are the only resources that call a URL. -/
theorem invocationEndpoint?_document (r : Resource) :
    r.document.invocationEndpoint? = r.endpoint?.map .string := by
  cases r <;>
    simp [document, properties?, Value.invocationEndpoint?, Value.field?_record, endpoint?,
      Entries.get?, Destination.document, Rule.document, ExecutionRole.document,
      Connection.document]

end Resource

namespace Specification

variable {s : Specification} {o : Options} {baseUrl name : String}

/-- The destinations that are written are those of the generated operations. -/
theorem mem_resources_destination_iff (hn : o.policy.sharedNames.Nodup) {d : Destination} :
    (name, Resource.destination d) ∈ s.resources o baseUrl ↔
      ∃ a ∈ s.generated o.methods, name = a.name o ∧
        d = (a.endpoint s.reusableQuery o baseUrl).destination o.policy := by
  rw [resources_eq hn, List.mem_append, mem_operationResources]
  simp [Policy.sharedResources]

/-- An inventory holds no destinations but those that were written. -/
theorem mem_resources_of_inventory {d : Destination}
    (h : (s.inventory o baseUrl).get? name = some (.destination d)) :
    (name, Resource.destination d) ∈ s.resources o baseUrl := by
  rw [get?_inventory, Option.map_eq_some_iff] at h
  obtain ⟨r, hr, hd⟩ := h
  obtain ⟨before, after, he, -⟩ := Entries.get?_reverse_eq_some_iff.mp hr
  obtain rfl : r = .destination d := by
    split at hd
    · cases r <;> simp_all [Inventory.grantResource]
    · exact hd
  simp [he]

/-- Under a generated name the template calls nothing but the base URL, followed by the path of an
operation of that name. -/
theorem Compiled.endpoint_of_resource {c : Compilation} (h : s.Compiled o c)
    (hname : name ∈ Entries.keys (c.usedNames o.policy)) {resource called : Value}
    (hr : c.resource? name = some resource) (hc : resource.invocationEndpoint? = some called) :
    ∃ a ∈ s.generated o.methods, name = a.name o ∧
      called = .string (c.baseUrl ++ PathTemplate.toWildcards a.path) := by
  obtain ⟨r, hget, hdocument⟩ := h.exists_of_mem_usedNames hname
  obtain rfl := Option.some.inj (hr.symm.trans hdocument)
  rw [Resource.invocationEndpoint?_document, Option.map_eq_some_iff] at hc
  obtain ⟨url, hurl, rfl⟩ := hc
  obtain ⟨d, rfl, rfl⟩ := Resource.endpoint?_eq_some_iff.mp hurl
  obtain ⟨a, ha, rfl, rfl⟩ :=
    (mem_resources_destination_iff h.nodup).mp (mem_resources_of_inventory hget)
  exact ⟨a, ha, rfl, rfl⟩

/-- The base URL is empty exactly if the URL of the selected server is a slash. The operations write
destinations that call the base URL followed by the path with wildcards, each under the name of the
operation, and nothing else is called under the generated names of the template. -/
theorem called_urls (s : Specification) (o : Options) :
    (∀ baseUrl, BaseUrl.resolve s.servers o.environment = .ok baseUrl →
      (baseUrl = "" ↔ BaseUrl.SelectsUrl s.servers o.environment "/")) ∧
    ∀ c, s.compile o = .ok c →
      (c.baseUrl = "" ↔ BaseUrl.SelectsUrl s.servers o.environment "/") ∧
      (∀ name d, (name, Resource.destination d) ∈ s.writes o c.baseUrl →
        ∃ a ∈ s.generated o.methods, name = a.name o ∧
          d.endpoint = c.baseUrl ++ PathTemplate.toWildcards a.path) ∧
      (∀ a ∈ s.generated o.methods, ∃ d, (a.name o, Resource.destination d) ∈ s.writes o c.baseUrl ∧
        d.endpoint = c.baseUrl ++ PathTemplate.toWildcards a.path) ∧
      ∀ name ∈ Entries.keys (c.usedNames o.policy), ∀ resource called,
        c.resource? name = some resource → resource.invocationEndpoint? = some called →
          ∃ a ∈ s.generated o.methods, name = a.name o ∧
            called = .string (c.baseUrl ++ PathTemplate.toWildcards a.path) := by
  refine ⟨fun baseUrl h => BaseUrl.eq_empty_iff_of_resolve h, fun c h => ?_⟩
  have hc := compiled_of_compile h
  refine ⟨BaseUrl.eq_empty_iff_of_resolve hc.baseUrl, ?_, ?_, ?_⟩
  · intro name d hd
    rw [← resources_eq_writes hc.nodup] at hd
    obtain ⟨a, ha, hname, rfl⟩ := (mem_resources_destination_iff hc.nodup).mp hd
    exact ⟨a, ha, hname, rfl⟩
  · intro a ha
    refine ⟨(a.endpoint s.reusableQuery o c.baseUrl).destination o.policy, ?_, rfl⟩
    rw [← resources_eq_writes hc.nodup]
    exact mem_resources_destination hc.nodup ha
  · intro name hname resource called hr hcalled
    exact hc.endpoint_of_resource hname hr hcalled

/-- Three operations write under one name. The one that the template calls has that name, and there
is a host to call. -/
theorem called_urls_cacheApi :
    ∃ c resource a, cacheApi.compile cacheOptions = .ok c ∧ c.baseUrl ≠ "" ∧
      c.resource? "ApiCachePut" = some resource ∧ a ∈ cacheApi.generated cacheOptions.methods ∧
      a.name cacheOptions = "ApiCachePut" ∧
      resource.invocationEndpoint? =
        some (.string (c.baseUrl ++ PathTemplate.toWildcards a.path)) := by
  obtain ⟨c, h⟩ := exists_ok_of_isOk
    (by decide +kernel : (cacheApi.compile cacheOptions).isOk = true)
  have hc := compiled_of_compile h
  have hother : ¬ BaseUrl.SelectsUrl cacheApi.servers cacheOptions.environment "/" := by
    rintro ⟨before, server, after, split, -, hurl⟩
    have hserver : server ∈ cacheApi.servers := by simp [split]
    rw [List.mem_singleton.mp hserver] at hurl
    exact absurd hurl (by decide)
  have hname : "ApiCachePut" ∈ Entries.keys (c.usedNames cacheOptions.policy) := by
    rw [c.keys_usedNames, hc.destinations]
    decide +kernel
  have hdestination : ∃ d, (cacheApi.inventory cacheOptions c.baseUrl).get? "ApiCachePut" =
      some (.destination d) := by
    have hresolve : BaseUrl.resolve cacheApi.servers cacheOptions.environment =
        .ok "https://api.example.com" := by decide +kernel
    rw [Except.ok.inj (hc.baseUrl.symm.trans hresolve)]
    exact ⟨⟨"ApiConnection", "PUT", "https://api.example.com/cache", 300⟩, by decide +kernel⟩
  obtain ⟨d, hd⟩ := hdestination
  have hresource := hc.resource?_of_inventory hd
  have hcalled := (Resource.destination d).invocationEndpoint?_document
  obtain ⟨hempty, -, -, hcalls⟩ := (called_urls cacheApi cacheOptions).2 c h
  obtain ⟨a, ha, haname, hendpoint⟩ := hcalls _ hname _ _ hresource hcalled
  exact ⟨c, _, a, h, fun he => hother (hempty.mp he), hresource, ha, haname.symm,
    hendpoint ▸ hcalled⟩

/-- A description whose only server has a URL that is relative to the place of the description. -/
def rootText : String :=
  "servers: [\x7burl: /\x7d]
paths:
  /items/\x7bid\x7d:
    put: \x7boperationId: replace\x7d"

/-- Of a URL that is nothing but a slash nothing is left, and a destination calls a path without a
host. -/
theorem not_host_called_rootText :
    ∃ s c resource, parse? rootText = some s ∧ s.compile {} = .ok c ∧ c.baseUrl = "" ∧
      c.resource? "ItemsPut" = some resource ∧
      resource.invocationEndpoint? = some (.string "/items/*") := by
  have hrun : ((parse? rootText).map fun s =>
      (BaseUrl.resolve s.servers none, (s.compile {}).isOk,
        (s.inventory {} "").get? "ItemsPut")) =
      some (.ok "", true, some (.destination ⟨"ApiConnection", "PUT", "/items/*", 300⟩)) := by
    decide +kernel
  obtain ⟨s, hread, hs⟩ := Option.map_eq_some_iff.mp hrun
  obtain ⟨hresolve, hs⟩ := Prod.mk.inj hs
  obtain ⟨hok, hget⟩ := Prod.mk.inj hs
  obtain ⟨c, h⟩ := exists_ok_of_isOk hok
  have hc := compiled_of_compile h
  have hempty : c.baseUrl = "" := Except.ok.inj (hc.baseUrl.symm.trans hresolve)
  have hresource : c.resource? "ItemsPut" = some (Resource.destination
      ⟨"ApiConnection", "PUT", "/items/*", 300⟩).document := by
    apply hc.resource?_of_inventory
    rw [hempty]
    exact hget
  exact ⟨s, c, _, hread, h, hempty, hresource, Resource.invocationEndpoint?_document _⟩

end Specification

end EventRouting
