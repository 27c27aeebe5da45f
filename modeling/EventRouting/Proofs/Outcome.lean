import EventRouting.Compilation.Basic
import EventRouting.Proofs.Gathering

/-!
# What a successful compilation consists of

The template of a successful compilation holds the resources of the blueprint, overlaid with the
generated ones. The generated ones are a row of writes under the names that the report uses: first
the shared names, then those of each destination and its rule.
-/

namespace EventRouting

section Results

variable {ε ε' α β : Type}

/-- What follows a result succeeds exactly if the result is there and it succeeds on it. -/
theorem bind_eq_ok {x : Except ε α} {f : α → Except ε β} {b : β} :
    x >>= f = .ok b ↔ ∃ a, x = .ok a ∧ f a = .ok b := by
  cases x with
  | error e => simp [bind, Except.bind]
  | ok a => simp [bind, Except.bind]

/-- What follows a result fails if there is no result, or if it fails on it. -/
theorem bind_eq_error {x : Except ε α} {f : α → Except ε β} {e : ε} :
    x >>= f = .error e ↔ x = .error e ∨ ∃ a, x = .ok a ∧ f a = .error e := by
  cases x with
  | error e => simp [bind, Except.bind]
  | ok a => simp [bind, Except.bind]

theorem mapError_eq_ok {x : Except ε α} {f : ε → ε'} {a : α} :
    x.mapError f = .ok a ↔ x = .ok a := by
  cases x with
  | error e => simp [Except.mapError]
  | ok a => simp [Except.mapError]

theorem mapError_eq_error {x : Except ε α} {f : ε → ε'} {e : ε'} :
    x.mapError f = .error e ↔ ∃ d, x = .error d ∧ f d = e := by
  cases x with
  | error d => simp [Except.mapError]
  | ok a => simp [Except.mapError]

theorem map_eq_ok {x : Except ε α} {f : α → β} {b : β} :
    x.map f = .ok b ↔ ∃ a, x = .ok a ∧ f a = b := by
  cases x with
  | error e => simp [Except.map]
  | ok a => simp [Except.map]

theorem exists_ok_iff {x : Except ε α} : (∃ a, x = .ok a) ↔ ∀ e, x ≠ .error e := by
  cases x with
  | error e => simp
  | ok a => simp

theorem exists_ok_of_isOk {x : Except ε α} (h : x.isOk = true) : ∃ a, x = .ok a := by
  cases x with
  | error e => cases h
  | ok a => exact ⟨a, rfl⟩

end Results

namespace Policy

/-- No name is found again exactly if there is no repetition and nothing was seen before. -/
theorem firstRepeated?_eq_none_iff {seen names : List String} :
    firstRepeated? seen names = none ↔ names.Nodup ∧ ∀ n ∈ names, n ∉ seen := by
  induction names generalizing seen with
  | nil => simp [firstRepeated?]
  | cons name rest ih =>
      by_cases h : name ∈ seen
      · simp [firstRepeated?, h]
      · simp only [firstRepeated?, List.contains_iff_mem, h, ↓reduceIte, ih, List.nodup_cons,
          List.mem_cons, not_or, forall_eq_or_imp, not_false_eq_true, true_and]
        constructor
        · rintro ⟨hn, hs⟩
          exact ⟨⟨fun hm => (hs name hm).1 rfl, hn⟩, fun n hm => (hs n hm).2⟩
        · rintro ⟨⟨hm, hn⟩, hs⟩
          exact ⟨hn, fun n hr => ⟨fun he => hm (he ▸ hr), hs n hr⟩⟩

/-- A valid policy shares resources under different names. -/
theorem sharedNames_nodup {p : Policy} (h : p.validate = .ok ()) : p.sharedNames.Nodup := by
  have he : p.error? = none := by
    cases hp : p.error? with
    | none => rfl
    | some e => simp [validate, hp] at h
  rw [error?] at he
  split at he
  · simp at he
  · split at he
    · simp at he
    · exact (firstRepeated?_eq_none_iff.mp (Option.map_eq_none_iff.mp he)).1

end Policy

namespace Inventory

theorem get?_grant (m : Inventory) (role name : String) (destinations : List String) :
    (m.grant role destinations).get? name =
      (m.get? name).map fun r => if name = role then grantResource destinations r else r := by
  by_cases h : name = role
  · subst h
    simp [grant, OrderedMap.get?_modify_self]
  · simp [grant, OrderedMap.get?_modify_of_ne m h, h]

theorem keys_document (m : Inventory) : Entries.keys m.document = m.names.map .string := by
  simp [document, Entries.keys, OrderedMap.names]

theorem nodup_keys_document (m : Inventory) : (Entries.keys m.document).Nodup := by
  rw [keys_document]
  exact m.nodup.map fun _ _ h => Value.string.inj h

theorem length_document (m : Inventory) : m.document.length = m.names.length := by
  simp [document, OrderedMap.names, Entries.keys]

theorem exact_of_mem_document {m : Inventory} {e : Value × Value} (h : e ∈ m.document) :
    Entries.Exact e.1 := by
  obtain ⟨x, -, rfl⟩ := List.mem_map.mp h
  infer_instance

theorem get?_document (m : Inventory) (name : String) :
    Entries.get? (.string name) m.document = (m.get? name).map Resource.document := by
  apply Option.ext
  intro v
  rw [Entries.get?_eq_some_iff_mem m.nodup_keys_document, Option.map_eq_some_iff, document,
    List.mem_map]
  constructor
  · rintro ⟨e, he, hv⟩
    obtain ⟨hn, rfl⟩ := Prod.mk.inj hv
    obtain rfl := Value.string.inj hn
    exact ⟨e.2, OrderedMap.get?_eq_some_iff_mem.mpr he, rfl⟩
  · rintro ⟨r, hr, rfl⟩
    exact ⟨(name, r), OrderedMap.get?_eq_some_iff_mem.mp hr, rfl⟩

/-- The names that have to make way are those of the inventory that were in use before. -/
theorem replacedNames_document (base : Mapping) (m : Inventory) :
    base.replacedNames m.document =
      m.names.filter fun name => Entries.contains (.string name) base := by
  simp only [Mapping.replacedNames, document, List.filterMap_map, OrderedMap.names, Entries.keys,
    List.filter_map, ← List.filterMap_eq_filter, List.map_filterMap]
  apply List.filterMap_congr
  intro e _
  by_cases h : Entries.contains (.string e.1) base <;> simp [h, Option.guard]

end Inventory

namespace Value

/-- What is nothing holds no entries. -/
theorem entries?_of_isNull : ∀ {v : Value}, v.isNull = true → v.entries? = none
  | .null, _ => rfl
  | .tagged _ v, h => entries?_of_isNull (v := v) h
  | .bool _, h | .number _, h | .string _, h | .sequence _, h | .mapping _, h => by
      simp [isNull] at h

end Value

namespace Blueprint

/-- The resources that a template holds. -/
def held (template : Value) : Mapping :=
  ((template.field? "Resources").bind Value.entries?).getD []

@[simp] theorem held_standard (p : Policy) : held (standard p) = [] := by
  simp [held, standard, Value.record, Value.field?, Value.entries?, Entries.get?]

theorem held_of_resources {template : Value} {sections old : Mapping}
    (hs : Blueprint.sections template = .ok sections) (hr : resources sections = .ok old) :
    held template = old := by
  cases template with
  | null =>
      obtain rfl := Except.ok.inj hs
      exact Except.ok.inj hr
  | mapping entries =>
      obtain rfl := Except.ok.inj hs
      simp only [held, Value.field?, Value.entries?, Option.bind_some]
      rw [resources, resourcesKey] at hr
      split at hr
      · next h =>
        simp only [h, Option.bind_none, Option.getD_none]
        exact Except.ok.inj hr
      · next h =>
        simp only [h, Option.bind_some, Value.entries?, Option.getD_some]
        exact Except.ok.inj hr
      · next v _ h =>
        split at hr
        · next hn =>
          simp only [h, Option.bind_some, Value.entries?_of_isNull hn, Option.getD_none]
          exact Except.ok.inj hr
        · cases hr
  | _ => cases hs

/-- Merging succeeds if sections and resources are found, and then it writes the one section. -/
theorem merge_eq_ok_iff {template : Value} {generated : Mapping} {merged : Merged} :
    merge template generated = .ok merged ↔
      ∃ sections old, Blueprint.sections template = .ok sections ∧ resources sections = .ok old ∧
        ⟨.mapping (Entries.insert resourcesKey (.mapping (old.overlay generated)) sections),
          old.replacedNames generated⟩ = merged := by
  unfold merge
  constructor
  · intro h
    obtain ⟨sections, hs, h⟩ := bind_eq_ok.mp h
    obtain ⟨old, hr, h⟩ := bind_eq_ok.mp h
    exact ⟨sections, old, hs, hr, Except.ok.inj h⟩
  · rintro ⟨sections, old, hs, hr, rfl⟩
    exact bind_eq_ok.mpr ⟨sections, hs, bind_eq_ok.mpr ⟨old, hr, rfl⟩⟩

/-- A template that was merged into holds its old resources, overlaid with the new ones. -/
theorem held_merge {template : Value} {generated : Mapping} {merged : Merged}
    (h : merge template generated = .ok merged) :
    held merged.template = (held template).overlay generated ∧
      merged.replaced = (held template).replacedNames generated := by
  obtain ⟨sections, old, hs, hr, rfl⟩ := merge_eq_ok_iff.mp h
  rw [held_of_resources hs hr]
  refine ⟨?_, rfl⟩
  simp [held, Value.field?, Value.entries?, resourcesKey]

end Blueprint

/-- The resources of the blueprint before anything is merged: none if there is no blueprint. -/
def Options.blueprintResources (o : Options) : Mapping :=
  (o.blueprint.map Blueprint.held).getD []

theorem Options.held_blueprint (o : Options) :
    Blueprint.held (o.blueprint.getD (Blueprint.standard o.policy)) = o.blueprintResources := by
  cases h : o.blueprint <;> simp [blueprintResources, h]

/-- The generated names in the order of their use, each with the wording of its user: first the
shared names, then those of each destination and its rule. -/
def Compilation.usedNames (c : Compilation) (p : Policy) : List (String × String) :=
  (p.sharedNames.map fun name => (name, "shared resource")) ++
    c.destinations.flatMap fun d =>
      [(d.name, Text.upper d.method ++ " " ++ d.path),
        (d.ruleName, Text.upper d.method ++ " " ++ d.path)]

theorem Compilation.keys_usedNames (c : Compilation) (p : Policy) :
    Entries.keys (c.usedNames p) =
      p.sharedNames ++ c.destinations.flatMap fun d => [d.name, d.ruleName] := by
  simp [usedNames, Entries.keys, List.map_flatMap, Function.comp_def]

namespace Specification

/-- What a compilation is, once nothing has gone wrong. -/
structure Compiled (s : Specification) (o : Options) (c : Compilation) : Prop where
  valid : o.policy.validate = .ok ()
  baseUrl : BaseUrl.resolve s.servers o.environment = .ok c.baseUrl
  destinations : c.destinations = s.destinations o
  collisions : c.collisions = s.collisions o
  resources : c.resources = o.blueprintResources.overlay (s.inventory o c.baseUrl).document
  replaced : c.replaced = o.blueprintResources.replacedNames (s.inventory o c.baseUrl).document

/-- A compilation merges the inventory of the description, and its report consists of the lists that
are said of the description. -/
theorem compile_eq (s : Specification) (o : Options) :
    s.compile o = (do
      o.policy.validate.mapError .policy
      let baseUrl ← (BaseUrl.resolve s.servers o.environment).mapError .server
      let merged ← (Blueprint.merge (o.blueprint.getD (Blueprint.standard o.policy))
        (s.inventory o baseUrl).document).mapError .blueprint
      return ⟨merged.template, baseUrl, s.destinations o, s.skipped o, s.collisions o,
        s.unresolved o, merged.replaced⟩) := by
  unfold compile
  cases hv : o.policy.validate with
  | error e => rfl
  | ok valid =>
      simp only [resources_progress, destinations_progress, skipped_progress, unresolved_progress,
        collisions_progress s o _ (Policy.sharedNames_nodup hv)]

/-- A compilation succeeds if the policy is valid, a server is found and the blueprint can be merged
into, and then all parts of its result are known. -/
theorem compile_eq_ok_iff {s : Specification} {o : Options} {c : Compilation} :
    s.compile o = .ok c ↔
      ∃ baseUrl merged, o.policy.validate = .ok () ∧
        BaseUrl.resolve s.servers o.environment = .ok baseUrl ∧
        Blueprint.merge (o.blueprint.getD (Blueprint.standard o.policy))
          (s.inventory o baseUrl).document = .ok merged ∧
        ⟨merged.template, baseUrl, s.destinations o, s.skipped o, s.collisions o, s.unresolved o,
          merged.replaced⟩ = c := by
  rw [compile_eq]
  constructor
  · intro h
    obtain ⟨_, hv, h⟩ := bind_eq_ok.mp h
    obtain ⟨baseUrl, hb, h⟩ := bind_eq_ok.mp h
    obtain ⟨merged, hm, h⟩ := bind_eq_ok.mp h
    exact ⟨baseUrl, merged, mapError_eq_ok.mp hv, mapError_eq_ok.mp hb, mapError_eq_ok.mp hm,
      Except.ok.inj h⟩
  · rintro ⟨baseUrl, merged, hv, hb, hm, rfl⟩
    exact bind_eq_ok.mpr ⟨(), mapError_eq_ok.mpr hv, bind_eq_ok.mpr ⟨baseUrl,
      mapError_eq_ok.mpr hb, bind_eq_ok.mpr ⟨merged, mapError_eq_ok.mpr hm, rfl⟩⟩⟩

theorem compiled_of_compile {s : Specification} {o : Options} {c : Compilation}
    (h : s.compile o = .ok c) : s.Compiled o c := by
  obtain ⟨baseUrl, merged, hv, hb, hm, rfl⟩ := compile_eq_ok_iff.mp h
  obtain ⟨hr, hp⟩ := Blueprint.held_merge hm
  rw [Options.held_blueprint] at hr hp
  exact ⟨hv, hb, rfl, rfl, hr, hp⟩

theorem skipped_of_compile {s : Specification} {o : Options} {c : Compilation}
    (h : s.compile o = .ok c) : c.skipped = s.skipped o := by
  obtain ⟨_, _, -, -, -, rfl⟩ := compile_eq_ok_iff.mp h
  rfl

theorem unresolved_of_compile {s : Specification} {o : Options} {c : Compilation}
    (h : s.compile o = .ok c) : c.unresolved = s.unresolved o := by
  obtain ⟨_, _, -, -, -, rfl⟩ := compile_eq_ok_iff.mp h
  rfl

/-- The writes of the operations: a destination and a rule for each of them. -/
def operationResources (s : Specification) (o : Options) (baseUrl : String) :
    List (String × Resource) :=
  (s.generated o.methods).flatMap fun a =>
    (a.endpoint s.reusableQuery o baseUrl).resources o.policy

theorem resources_eq {s : Specification} {o : Options} (h : o.policy.sharedNames.Nodup)
    (baseUrl : String) :
    s.resources o baseUrl = o.policy.sharedResources ++ s.operationResources o baseUrl := by
  rw [resources, Inventory.entries_shared h, operationResources]

theorem keys_operationResources (s : Specification) (o : Options) (baseUrl : String) :
    Entries.keys (s.operationResources o baseUrl) =
      Entries.keys ((s.generated o.methods).flatMap (AcceptedOperation.uses o)) := by
  simp [operationResources, Entries.keys, List.map_flatMap, Endpoint.resources,
    AcceptedOperation.uses, AcceptedOperation.endpoint, AcceptedOperation.ruleName]

theorem keys_resources {s : Specification} {o : Options} (h : o.policy.sharedNames.Nodup)
    (baseUrl : String) : Entries.keys (s.resources o baseUrl) = Entries.keys (s.uses o) := by
  rw [resources_eq h, uses, Entries.keys_append, Entries.keys_append, keys_operationResources,
    Policy.keys_sharedResources]
  simp [Entries.keys, Function.comp_def]

theorem mem_operationResources {s : Specification} {o : Options} {baseUrl : String}
    {e : String × Resource} :
    e ∈ s.operationResources o baseUrl ↔
      ∃ a ∈ s.generated o.methods,
        e = (a.name o, .destination ((a.endpoint s.reusableQuery o baseUrl).destination o.policy)) ∨
          e = (a.ruleName o, .rule ((a.endpoint s.reusableQuery o baseUrl).rule o.policy)) := by
  simp [operationResources, Endpoint.resources, AcceptedOperation.ruleName,
    AcceptedOperation.endpoint]

theorem operationResources_kind {s : Specification} {o : Options} {baseUrl : String}
    {e : String × Resource} (h : e ∈ s.operationResources o baseUrl) :
    (∃ d, e.2 = .destination d) ∨ ∃ r, e.2 = .rule r := by
  obtain ⟨a, -, rfl | rfl⟩ := mem_operationResources.mp h
  · exact Or.inl ⟨_, rfl⟩
  · exact Or.inr ⟨_, rfl⟩

/-- A name of the inventory has its last write, to which the role's grant may be added. -/
theorem get?_inventory (s : Specification) (o : Options) (baseUrl name : String) :
    (s.inventory o baseUrl).get? name =
      (Entries.get? name (s.resources o baseUrl).reverse).map fun r =>
        if name = o.policy.roleName then
          Inventory.grantResource ((s.destinations o).map (·.name)) r
        else r := by
  rw [inventory, Inventory.get?_grant, ungranted, OrderedMap.get?_ofList]

theorem mem_names_inventory {s : Specification} {o : Options} {baseUrl name : String} :
    name ∈ (s.inventory o baseUrl).names ↔ name ∈ Entries.keys (s.resources o baseUrl) := by
  rw [OrderedMap.mem_names_iff, OrderedMap.contains, get?_inventory, Option.isSome_map,
    ← Entries.contains, ← Entries.mem_keys_iff, Entries.keys_reverse, List.mem_reverse]

namespace Compiled

variable {s : Specification} {o : Options} {c : Compilation}

theorem nodup (h : s.Compiled o c) : o.policy.sharedNames.Nodup :=
  Policy.sharedNames_nodup h.valid

/-- The report uses the names of the generated resources, in the same order. -/
theorem usedNames_eq (h : s.Compiled o c) :
    c.usedNames o.policy = (s.uses o).map fun u => (u.1, u.2.text) := by
  simp [Compilation.usedNames, uses, h.destinations, Specification.destinations, Function.comp_def,
    Origin.text, List.map_flatMap, List.flatMap_map, AcceptedOperation.uses,
    AcceptedOperation.destination, AcceptedOperation.origin]

theorem keys_usedNames (h : s.Compiled o c) :
    Entries.keys (c.usedNames o.policy) = Entries.keys (s.resources o c.baseUrl) := by
  rw [keys_resources h.nodup, h.usedNames_eq]
  simp [Entries.keys, Function.comp_def]

/-- A generated resource is in the template, and no other resource is in its place. -/
theorem resource?_eq (h : s.Compiled o c) (name : String) :
    c.resource? name =
      (((s.inventory o c.baseUrl).get? name).map Resource.document).or
        (Entries.get? (.string name) o.blueprintResources) := by
  rw [Compilation.resource?, h.resources, Mapping.overlay,
    Entries.get?_overlay fun _ he => Inventory.exact_of_mem_document he,
    Entries.get?_reverse_of_nodup (Inventory.nodup_keys_document _), Inventory.get?_document]

theorem resource?_of_inventory (h : s.Compiled o c) {name : String} {r : Resource}
    (hr : (s.inventory o c.baseUrl).get? name = some r) : c.resource? name = some r.document := by
  rw [h.resource?_eq, hr]
  rfl

end Compiled

end Specification

/-- An API whose operations get each other's names under `cacheOptions`. -/
def cacheApi : Specification where
  servers := [{ url := some "https://api.example.com/" }]
  paths :=
    [("/cache/\x7bname\x7d", {
        operations := [("put", { id := some "put" }), ("get", { id := some "get" })] }),
      ("/cache/\x7bkey\x7d", {
        operations := [("delete", {}), ("put", { id := some "replace" })] }),
      ("/cache", { operations := [("put", { id := some "fill" })] }),
      ("/cachePut", { operations := [("put", { id := some "again" })] }),
      ("/topics/\x7btopic\x7d", {
        parameters := [.inline { name := "ttl", location := some .query }]
        operations := [("post", {
          id := some "publish"
          requestBody := some (.record [("content", .null)]) })] })]

/-- Options that let three operations of `cacheApi` share one name, let another one take the name of
a rule, and yet another one that of the queue. -/
def cacheOptions : Options where
  methods := .parse "put,get,delete"
  namePrefix := "Api"
  blueprint := some (.record [("Resources", .record [("Bus", .null), ("ApiCachePut", .null)])])
  policy := { queueName := "ApiCacheGet", ruleSuffix := "Put" }

end EventRouting
