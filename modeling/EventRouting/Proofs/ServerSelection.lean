import EventRouting.Proofs.Refusal

/-!
# The selected server

One server decides about the base URL. With an environment it is the first one that the environment
names, whether it has a URL or not; without one it is the first that can be called. The servers
before it were looked at and the servers behind it were not, and none of them has any influence.
-/

namespace EventRouting

namespace Server

theorem usableUrl?_eq_some_iff {s : Server} {url : String} :
    s.usableUrl? = some url ↔ s.url = some url ∧ url ≠ "" := by
  rw [usableUrl?, Option.filter_eq_some_iff, bne_iff_ne]

end Server

namespace BaseUrl

/-- A server is selected behind others. With an environment it is the first one that the environment
names, without one it is the first that can be called. -/
inductive Selected (before : List Server) (server : Server) : Option String → Prop
  | named {environment : String} (given : environment ≠ "") (named : server.Names environment)
      (first : ∀ x ∈ before, ¬ x.Names environment) : Selected before server (some environment)
  | callable {environment : Option String} (absent : environment = none ∨ environment = some "")
      (url : server.Callable) (first : ∀ x ∈ before, ¬ x.Callable) :
      Selected before server environment

/-- The base URL that a URL is made into: a slash at its end is taken off, and only one. -/
structure Trimmed (url baseUrl : String) : Prop where
  slash : url.toList.getLast? = some '/' → url = baseUrl ++ "/"
  other : url.toList.getLast? ≠ some '/' → url = baseUrl

section Trimmed

variable {url baseUrl : String}

theorem withoutSlash_append (s : String) : withoutSlash (s ++ "/") = s := by
  simp [withoutSlash]

theorem withoutSlash_of_ne (h : url.toList.getLast? ≠ some '/') : withoutSlash url = url := by
  rw [withoutSlash]
  split
  · next rest hr =>
    rw [← List.head?_reverse, hr] at h
    exact absurd rfl h
  · rfl

theorem trimmed_iff : Trimmed url baseUrl ↔ withoutSlash url = baseUrl := by
  constructor
  · intro h
    by_cases hs : url.toList.getLast? = some '/'
    · rw [h.slash hs, withoutSlash_append]
    · rw [withoutSlash_of_ne hs, h.other hs]
  · rintro rfl
    constructor
    · intro hs
      obtain ⟨before, hb⟩ := List.getLast?_eq_some_iff.mp hs
      have hu : url = String.ofList before ++ "/" := by
        apply String.toList_injective
        simp [hb]
      rw [hu, withoutSlash_append]
    · intro hs
      rw [withoutSlash_of_ne hs]

end Trimmed

section Selection

variable {servers before after : List Server} {server : Server} {environment : Option String}
  {url : String}

theorem filter_of_given {name : String} (given : name ≠ "") :
    (some name).filter (· != "") = some name := by
  simp [given]

/-- An empty environment counts as none. -/
theorem filter_of_absent (absent : environment = none ∨ environment = some "") :
    environment.filter (· != "") = none := by
  rcases absent with rfl | rfl <;> simp

/-- The selected server decides alone. If it has no URL, an environment selected it, which then is
reported. -/
theorem select_eq_of_selected (h : Selected before server environment) (after : List Server) :
    select (before ++ server :: after) environment =
      match server.usableUrl? with
      | some url => .ok url
      | none => .error (.environmentNotFound (environment.getD "")) := by
  cases h with
  | @named name given named first =>
      have hfind := find?_eq_some_iff.mpr ⟨named, before, after, rfl, first⟩
      simp only [select, filter_of_given given, hfind, Option.bind_some]
      cases server.usableUrl? <;> rfl
  | callable absent url first =>
      have hbefore : before.findSome? Server.usableUrl? = none :=
        List.findSome?_eq_none_iff.mpr fun x hx => Server.usableUrl?_eq_none_iff.mpr (first x hx)
      obtain ⟨u, hu⟩ := Option.ne_none_iff_exists'.mp fun hn =>
        Server.usableUrl?_eq_none_iff.mp hn url
      simp [select, filter_of_absent absent, List.findSome?_append, hbefore, hu]

/-- Where nothing is selected, nothing is found. -/
theorem exists_selected_of_select (h : select servers environment = .ok url) :
    ∃ before server after, servers = before ++ server :: after ∧
      Selected before server environment := by
  by_cases absent : environment = none ∨ environment = some ""
  · cases hs : servers.findSome? Server.usableUrl? with
    | none => simp [select, filter_of_absent absent, hs] at h
    | some u =>
        obtain ⟨before, server, after, split, hu, hb⟩ := List.findSome?_eq_some_iff.mp hs
        exact ⟨before, server, after, split, .callable absent
          ⟨u, Server.usableUrl?_eq_some_iff.mp hu⟩
          fun x hx => Server.usableUrl?_eq_none_iff.mp (hb x hx)⟩
  · obtain ⟨name, rfl⟩ := Option.ne_none_iff_exists'.mp fun hn => absent (.inl hn)
    have given : name ≠ "" := fun hn => absent (.inr (by rw [hn]))
    cases hs : find? servers name with
    | none => simp [select, filter_of_given given, hs] at h
    | some server =>
        obtain ⟨named, before, after, split, first⟩ := find?_eq_some_iff.mp hs
        exact ⟨before, server, after, split, .named given named first⟩

theorem select_eq_ok_iff :
    select servers environment = .ok url ↔
      ∃ before server after, servers = before ++ server :: after ∧
        Selected before server environment ∧ server.url = some url ∧ url ≠ "" := by
  constructor
  · intro h
    obtain ⟨before, server, after, rfl, hs⟩ := exists_selected_of_select h
    rw [select_eq_of_selected hs] at h
    refine ⟨before, server, after, rfl, hs, ?_⟩
    rw [← Server.usableUrl?_eq_some_iff]
    cases hu : server.usableUrl? with
    | none => simp [hu] at h
    | some u => simpa [hu] using h
  · rintro ⟨before, server, after, rfl, hs, hurl⟩
    rw [select_eq_of_selected hs, Server.usableUrl?_eq_some_iff.mpr hurl]

theorem resolve_eq_ok_iff {baseUrl : String} :
    resolve servers environment = .ok baseUrl ↔
      ∃ url, select servers environment = .ok url ∧ Trimmed url baseUrl := by
  simp only [resolve, map_eq_ok, trimmed_iff]

end Selection

/-- One server decides about the base URL. If there is one, it is made from the URL of the selected
server: with an environment that is the first server that it names, without one it is the first that
can be called. What fails is an environment whose first server is missing or has no URL, and this
environment is reported, or a list of which no server can be called. The servers behind the selected
one make no difference. -/
theorem base_url_of_selected (servers : List Server) (environment : Option String) :
    (∀ baseUrl, resolve servers environment = .ok baseUrl ↔
      ∃ before server after url, servers = before ++ server :: after ∧
        Selected before server environment ∧ server.url = some url ∧ url ≠ "" ∧
        Trimmed url baseUrl) ∧
      (∀ e, resolve servers environment = .error e ↔ Missing servers environment e) ∧
      ∀ before server, Selected before server environment → ∀ after after',
        resolve (before ++ server :: after) environment =
          resolve (before ++ server :: after') environment := by
  refine ⟨fun baseUrl => ?_, fun e => resolve_eq_error_iff, fun before server hs after after' => ?_⟩
  · rw [resolve_eq_ok_iff]
    constructor
    · rintro ⟨url, hselect, htrimmed⟩
      obtain ⟨before, server, after, split, hs, hurl, hne⟩ := select_eq_ok_iff.mp hselect
      exact ⟨before, server, after, url, split, hs, hurl, hne, htrimmed⟩
    · rintro ⟨before, server, after, url, split, hs, hurl, hne, htrimmed⟩
      exact ⟨url, select_eq_ok_iff.mpr ⟨before, server, after, split, hs, hurl, hne⟩, htrimmed⟩
  · rw [resolve, resolve, select_eq_of_selected hs, select_eq_of_selected hs]

/-- Servers of which the first two are there for one environment, and the first has no URL. -/
def stagedServers : List Server :=
  [{ description := some "Staging" },
    { url := some "https://staging.example.com", description := some "STAGING" },
    { url := some "https://example.com/v1//", description := some "Production" }]

/-- The first server that can be called is not the one that an environment selects, a server of the
environment that comes later is not taken in its place, and of two slashes one is taken off. -/
theorem base_url_of_selected_stagedServers :
    resolve stagedServers none = .ok "https://staging.example.com" ∧
      resolve stagedServers (some "staging") = .error (.environmentNotFound "staging") ∧
      resolve stagedServers (some "PRODUCTION") = .ok "https://example.com/v1/" ∧
      ∀ after, resolve (stagedServers ++ after) (some "PRODUCTION") =
        resolve stagedServers (some "PRODUCTION") := by
  have uncallable : ¬ Server.Callable { description := some "Staging" } :=
    Server.usableUrl?_eq_none_iff.mp rfl
  have lower : Text.lower "Staging" = Text.lower "staging" := by decide +kernel
  have others : ∀ x ∈ stagedServers.take 2, ¬ x.Names "PRODUCTION" := by
    simp only [← any_description_iff]
    decide +kernel
  have production : Selected (stagedServers.take 2)
      { url := some "https://example.com/v1//", description := some "Production" }
      (some "PRODUCTION") :=
    .named (by decide) ⟨_, rfl, by decide +kernel⟩ others
  obtain ⟨hok, -, -⟩ := base_url_of_selected stagedServers none
  obtain ⟨-, herror, -⟩ := base_url_of_selected stagedServers (some "staging")
  obtain ⟨hok', -, hbehind⟩ := base_url_of_selected stagedServers (some "PRODUCTION")
  refine ⟨?_, ?_, ?_, fun after => ?_⟩
  · refine (hok _).mpr ⟨[_], _, [_], "https://staging.example.com", rfl, .callable (.inl rfl)
      ⟨_, rfl, by decide⟩ ?_, rfl, by decide, trimmed_iff.mpr (by decide +kernel)⟩
    simpa using uncallable
  · exact (herror _).mpr
      (.uncallable (by decide) (List.nil_append _).symm ⟨_, rfl, lower⟩ (by simp) uncallable)
  · exact (hok' _).mpr ⟨_, _, [], "https://example.com/v1//", rfl, production, rfl, by decide,
      trimmed_iff.mpr (by decide +kernel)⟩
  · exact hbehind _ _ production after []

end BaseUrl

end EventRouting
