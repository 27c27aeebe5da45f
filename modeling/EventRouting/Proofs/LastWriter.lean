import EventRouting.Proofs.Outcome

/-!
# The last writer of a name

The paths of a description are gone through in order, and the operations of a path in order. Those
that are selected write a destination and a rule. What the template holds under a generated name is
the last write to it, whatever the blueprint held there, and nothing else of the blueprint changes.
-/

namespace EventRouting

namespace Specification

/-- All writes in the order of the description: the shared resources, then those of every operation
that has a wanted method and an identifier. -/
def writes (s : Specification) (o : Options) (baseUrl : String) : List (String × Resource) :=
  o.policy.sharedResources ++
    s.paths.flatMap fun (path, item) =>
      item.operations.flatMap fun (method, operation) =>
        if o.methods.contains method && operation.trigger?.isSome then
          let endpoint : Endpoint :=
            { name := LogicalName.destination o.namePrefix path method
              path := path
              wildcardPath := PathTemplate.toWildcards path
              method := method
              operation := operation
              query := operationQuery s.reusableQuery item operation
              baseUrl := baseUrl }
          endpoint.resources o.policy
        else []

theorem flatMap_filter_map {α β γ : Type} (l : List α) (p : α → Bool) (f : α → β) (q : β → Bool)
    (g : β → List γ) :
    (((l.filter p).map f).filter q).flatMap g =
      l.flatMap fun x => if p x && q (f x) then g (f x) else [] := by
  induction l with
  | nil => rfl
  | cons x rest ih =>
      by_cases hp : p x
      · by_cases hq : q (f x) <;> simp [hp, hq, ih]
      · simp [hp, ih]

/-- Going through paths and operations writes what is generated for the selected operations. -/
theorem resources_eq_writes {s : Specification} {o : Options} (h : o.policy.sharedNames.Nodup)
    (baseUrl : String) : s.resources o baseUrl = s.writes o baseUrl := by
  rw [resources_eq h, operationResources, generated, accepted, writes, List.filter_flatMap,
    List.flatMap_assoc]
  congr 1
  apply List.flatMap_congr
  intro p _
  rw [PathItem.accepted, flatMap_filter_map]
  simp only [AcceptedOperation.endpoint, AcceptedOperation.name_eq]
  rfl

/-- The execution role is written once, before everything else. -/
theorem not_role_of_resources_eq {s : Specification} {o : Options} {baseUrl : String}
    (hn : o.policy.sharedNames.Nodup) {before after : List (String × Resource)}
    {e : String × Resource} (h : s.resources o baseUrl = before ++ e :: after)
    (hb : before ≠ []) (r : ExecutionRole) : e.2 ≠ .role r := by
  obtain ⟨b, rest, rfl⟩ := List.exists_cons_of_ne_nil hb
  have hm : e ∈ rest ++ e :: after := by simp
  rw [resources_eq hn] at h
  obtain ⟨-, ht⟩ : _ ∧ o.policy.sharedResources.tail ++ s.operationResources o baseUrl =
      rest ++ e :: after := List.cons.inj h
  simp only [← ht, Policy.sharedResources, List.tail_cons, List.cons_append, List.nil_append,
    List.mem_cons] at hm
  rcases hm with rfl | rfl | hm
  · simp
  · simp
  · rcases operationResources_kind hm with ⟨d, hd⟩ | ⟨x, hx⟩
    · simp [hd]
    · simp [hx]

/-- The last write to a name that is not the execution role's is what the inventory holds. -/
theorem get?_inventory_of_writes {s : Specification} {o : Options} {baseUrl name : String}
    (hn : o.policy.sharedNames.Nodup) {before after : List (String × Resource)} {r : Resource}
    (h : s.writes o baseUrl = before ++ (name, r) :: after) (ha : name ∉ Entries.keys after)
    (hb : before ≠ []) : (s.inventory o baseUrl).get? name = some r := by
  rw [← resources_eq_writes hn] at h
  have hl : Entries.get? name (s.resources o baseUrl).reverse = some r :=
    Entries.get?_reverse_eq_some_iff.mpr ⟨before, after, h, ha⟩
  rw [get?_inventory, hl, Option.map_some,
    Inventory.grantResource_of_not_role (not_role_of_resources_eq hn h hb), ite_self]

/-- Under a generated name the template holds the last write to it, apart from the execution role,
which is still to be granted something. All other entries are those of the blueprint. -/
theorem last_write_wins {s : Specification} {o : Options} {c : Compilation}
    (h : s.compile o = .ok c) :
    (∀ before name r after, s.writes o c.baseUrl = before ++ (name, r) :: after →
      name ∉ Entries.keys after → before ≠ [] → c.resource? name = some r.document) ∧
    ∀ k v, (∀ name ∈ Entries.keys (s.writes o c.baseUrl), k ≠ .string name) →
      ((k, v) ∈ c.resources ↔ (k, v) ∈ o.blueprintResources) := by
  have hc := compiled_of_compile h
  constructor
  · intro before name r after hw ha hb
    exact hc.resource?_of_inventory (get?_inventory_of_writes hc.nodup hw ha hb)
  · intro k v hk
    rw [hc.resources, Mapping.overlay,
      Entries.mem_overlay_of_not_mem fun _ he => Inventory.exact_of_mem_document he]
    rw [Inventory.keys_document, List.mem_map]
    rintro ⟨name, hm, rfl⟩
    rw [mem_names_inventory, resources_eq_writes hc.nodup] at hm
    exact hk name hm rfl

/-- The third write of a name takes the place of two others and of the blueprint's resource, a
destination that of rules, and what was not generated stays. -/
theorem last_write_wins_cacheApi :
    ∃ c, cacheApi.compile cacheOptions = .ok c ∧
      c.resource? "ApiCachePut" = some (Resource.destination
        ⟨"ApiConnection", "PUT", "https://api.example.com/cache", 300⟩).document ∧
      c.resource? "ApiCachePutPut" = some (Resource.destination
        ⟨"ApiConnection", "PUT", "https://api.example.com/cachePut", 300⟩).document ∧
      (.string "Bus", .null) ∈ c.resources := by
  obtain ⟨c, h⟩ := exists_ok_of_isOk
    (by decide +kernel : (cacheApi.compile cacheOptions).isOk = true)
  have hu : c.baseUrl = "https://api.example.com" := by
    have hr : BaseUrl.resolve cacheApi.servers cacheOptions.environment =
        .ok "https://api.example.com" := by decide +kernel
    exact Except.ok.inj ((compiled_of_compile h).baseUrl.symm.trans hr)
  obtain ⟨hlast, hkept⟩ := last_write_wins h
  rw [hu] at hlast hkept
  let row := cacheApi.writes cacheOptions "https://api.example.com"
  refine ⟨c, h, ?_, ?_, ?_⟩
  · exact hlast (row.take 9) _ _ (row.drop 10) (by decide +kernel) (by decide +kernel)
      (by decide +kernel)
  · exact hlast (row.take 11) _ _ (row.drop 12) (by decide +kernel) (by decide +kernel)
      (by decide +kernel)
  · rw [hkept _ _ fun name hn he => ?_]
    · simp [Options.blueprintResources, cacheOptions, Blueprint.held, Value.record, Value.field?,
        Value.entries?, Entries.get?]
    · have hb : "Bus" ∉ Entries.keys row := by decide +kernel
      exact hb (Value.string.inj he ▸ hn)

end Specification

end EventRouting
